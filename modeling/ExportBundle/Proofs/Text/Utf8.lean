import ExportBundle.Text.Utf8

/-! Plain ASCII texts and their bytes. Main statement: such a text reads back from its bytes. -/

namespace ExportBundle.Text.Utf8

theorem encodeChar_of_ascii {c : Char} (h : c.toNat < 128) :
    encodeChar c = [UInt8.ofNat c.toNat] := by
  rw [encodeChar, if_pos h]

theorem decodeFrom_encode_of_ascii {cs : List Char} (h : ∀ c ∈ cs, c.toNat < 128)
    (position : Nat) : decodeFrom position none (encode cs) = .ok cs := by
  induction cs generalizing position with
  | nil => rfl
  | cons c r ih =>
    have hc : c.toNat < 128 := h c (by simp)
    have hbyte : (UInt8.ofNat c.toNat).toNat = c.toNat := by
      rw [UInt8.toNat_ofNat']
      omega
    have hrest : decodeFrom (position + 1) none (encode r) = .ok r :=
      ih (fun d hd => h d (List.mem_cons_of_mem c hd)) (position + 1)
    rw [encode, List.flatMap_cons, encodeChar_of_ascii hc, List.singleton_append, decodeFrom, hbyte,
      if_pos hc, ← encode, hrest, Char.ofNat_toNat]
    rfl

theorem decode_encode_of_ascii {cs : List Char} (h : ∀ c ∈ cs, c.toNat < 128) :
    decode (encode cs) = .ok cs := decodeFrom_encode_of_ascii h 0

theorem unifyLineEnds_of_notMem {cs : List Char} (h : '\r' ∉ cs) : unifyLineEnds cs = cs := by
  induction cs with
  | nil => rfl
  | cons c r ih =>
    rw [List.mem_cons, not_or] at h
    have hr : unifyLineEnds r = r := ih h.2
    rw [unifyLineEnds, hr]
    · exact fun _ hc _ => h.1 hc.symm
    · exact fun hc => h.1 hc.symm

end ExportBundle.Text.Utf8
