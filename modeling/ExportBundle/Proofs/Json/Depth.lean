import ExportBundle.Proofs.Json.Spelling

/-! How deep a printed document is. Brackets inside strings do not count, and outside of them each
one that is opened is closed again. Main statements: a document without fractions whose values do not
stand too deep in each other is loaded from its indented text and from its compact text. -/

namespace ExportBundle.Json

open Reader (Scan)

namespace Value

theorem depth_le_items {v : Value} {items : List Value} (h : v ∈ items) :
    v.depth ≤ depthOfItems items := by
  induction items with
  | nil => cases h
  | cons v' r ih =>
    rw [depthOfItems]
    cases h with
    | head => exact Nat.le_max_left _ _
    | tail _ h => exact Nat.le_trans (ih h) (Nat.le_max_right _ _)

theorem depth_le_members {m : String × Value} {members : List (String × Value)}
    (h : m ∈ members) : m.2.depth ≤ depthOfMembers members := by
  induction members with
  | nil => cases h
  | cons m' r ih =>
    rw [depthOfMembers]
    cases h with
    | head => exact Nat.le_max_left _ _
    | tail _ h => exact Nat.le_trans (ih h) (Nat.le_max_right _ _)

end Value

/-- A scan that is not inside a string. -/
structure IsOutside (s : Scan) : Prop where
  quoted : s.quoted = false
  escaped : s.escaped = false

/-- The text leaves a scan where it was, and opens at most `n` brackets at once. -/
def Closes (n : Nat) (text : List Char) : Prop :=
  ∀ s, IsOutside s → ∃ d, text.foldl Scan.next s = { s with deepest := d } ∧
    d ≤ max s.deepest (s.current + n)

section Closing

variable {m n : Nat} {text more : List Char}

theorem Closes.mono (h : Closes m text) (hle : m ≤ n) : Closes n text := by
  intro s hs
  obtain ⟨d, hfold, hd⟩ := h s hs
  exact ⟨d, hfold, by omega⟩

theorem closes_nil (n : Nat) : Closes n [] :=
  fun s _ => ⟨s.deepest, rfl, Nat.le_max_left _ _⟩

theorem Closes.append (h : Closes n text) (h' : Closes n more) : Closes n (text ++ more) := by
  intro s hs
  obtain ⟨d, hfold, hd⟩ := h s hs
  obtain ⟨d', hfold', hd'⟩ := h' { s with deepest := d } ⟨hs.quoted, hs.escaped⟩
  refine ⟨d', ?_, ?_⟩
  · rw [List.foldl_append, hfold, hfold']
  · dsimp only at hd'
    omega

theorem closes_of_quiet (h : ∀ c ∈ text, c ∉ ['"', '[', ']', '\x7b', '\x7d']) (n : Nat) :
    Closes n text := by
  induction text with
  | nil => exact closes_nil n
  | cons c r ih =>
    have hc := h c (by simp)
    simp only [List.mem_cons, List.not_mem_nil, or_false, not_or] at hc
    obtain ⟨hquote, hopen, hclose, hopen', hclose'⟩ := hc
    intro s hs
    have hnext : s.next c = s := by
      simp [Scan.next, hs.quoted, hs.escaped, hquote, hopen, hclose, hopen', hclose']
    rw [List.foldl_cons, hnext]
    exact ih (fun c hc => h c (List.mem_cons_of_mem _ hc)) s hs

theorem Closes.bracketed (h : Closes n text) {left right : Char}
    (hpair : left = '[' ∧ right = ']' ∨ left = '\x7b' ∧ right = '\x7d') :
    Closes (n + 1) (left :: (text ++ [right])) := by
  intro s hs
  have hopen : s.next left =
      { s with current := s.current + 1, deepest := max s.deepest (s.current + 1) } := by
    cases hpair with
    | inl h => simp [Scan.next, hs.quoted, hs.escaped, h.1]
    | inr h => simp [Scan.next, hs.quoted, hs.escaped, h.1]
  obtain ⟨d, hfold, hd⟩ := h (s.next left) (by rw [hopen]; exact ⟨hs.quoted, hs.escaped⟩)
  rw [hopen] at hfold hd
  have hclose : ({ s with current := s.current + 1, deepest := d } : Scan).next right =
      { s with deepest := d } := by
    cases hpair with
    | inl h => simp [Scan.next, hs.quoted, hs.escaped, h.2]
    | inr h => simp [Scan.next, hs.quoted, hs.escaped, h.2]
  refine ⟨d, ?_, ?_⟩
  · rw [List.foldl_cons, List.foldl_append, hopen, hfold, List.foldl_cons, List.foldl_nil, hclose]
  · dsimp only at hd
    omega

theorem closes_intercalate {separator : List Char} {texts : List (List Char)}
    (hseparator : Closes n separator) (h : ∀ text ∈ texts, Closes n text) :
    Closes n (separator.intercalate texts) := by
  induction texts with
  | nil => exact closes_nil n
  | cons a r ih =>
    have ha := h a (by simp)
    cases r with
    | nil =>
      rw [List.intercalate_singleton]
      exact ha
    | cons b r =>
      rw [List.intercalate_cons_cons]
      exact (ha.append hseparator).append (ih fun text ht => h text (List.mem_cons_of_mem a ht))

/-! The parts of a document -/

theorem foldl_jsonEscape {u : Nat} (h : u < 65536) (current deepest : Nat) :
    (Text.jsonEscape u).toList.foldl Scan.next ⟨current, deepest, true, false⟩ =
      ⟨current, deepest, true, false⟩ := by
  have hplain {c : Char} (hquote : c ≠ '"') (hbackslash : c ≠ '\\') :
      Scan.next ⟨current, deepest, true, false⟩ c = ⟨current, deepest, true, false⟩ := by
    simp [Scan.next, hquote, hbackslash]
  have hdigit {d : Nat} (hd : d < 16) :
      Scan.next ⟨current, deepest, true, false⟩ d.digitChar = ⟨current, deepest, true, false⟩ := by
    have hall : ∀ d < 16, d.digitChar ≠ '"' ∧ d.digitChar ≠ '\\' := by decide
    exact hplain (hall d hd).1 (hall d hd).2
  unfold Text.jsonEscape
  split
  case h_8 _ hquote hbackslash _ _ _ _ _ =>
    split
    · rw [String.toList_singleton]
      exact hplain hquote hbackslash
    · rw [Text.unitEscape, String.toList_append, Text.toList_hex_four h, List.foldl_append]
      change List.foldl Scan.next ⟨current, deepest, true, false⟩ _ = _
      rw [List.foldl_cons, hdigit (by omega), List.foldl_cons, hdigit (by omega), List.foldl_cons,
        hdigit (by omega), List.foldl_cons, hdigit (by omega), List.foldl_nil]
  all_goals rfl

theorem closes_jsonQuoted (text : String) (n : Nat) : Closes n (Text.jsonQuoted text).toList := by
  intro s hs
  obtain ⟨current, deepest, quoted, escaped⟩ := s
  obtain ⟨rfl, rfl⟩ := hs
  have hunits (us : List Nat) (h : ∀ u ∈ us, u < 65536) :
      (us.flatMap fun u => (Text.jsonEscape u).toList).foldl Scan.next
        ⟨current, deepest, true, false⟩ = ⟨current, deepest, true, false⟩ := by
    induction us with
    | nil => rfl
    | cons u us ih =>
      rw [List.flatMap_cons, List.foldl_append, foldl_jsonEscape (h u (by simp)),
        ih fun u hu => h u (List.mem_cons_of_mem _ hu)]
  refine ⟨deepest, ?_, Nat.le_max_left _ _⟩
  rw [Reader.toList_jsonQuoted, List.cons_append, List.foldl_cons, List.foldl_append]
  change List.foldl Scan.next (List.foldl Scan.next ⟨current, deepest, true, false⟩ _) _ = _
  rw [hunits _ fun u => Text.lt_of_mem_units]
  rfl

theorem closes_decimalInt (k : Int) (n : Nat) : Closes n (Text.decimalInt k).toList := by
  have hquiet : ∀ c ∈ ['-', '0', '1', '2', '3', '4', '5', '6', '7', '8', '9'],
      c ∉ ['"', '[', ']', '\x7b', '\x7d'] := by decide
  have hdigits {m : Nat} {c : Char} (hc : c ∈ (Text.decimal m).toList) :
      c ∈ ['-', '0', '1', '2', '3', '4', '5', '6', '7', '8', '9'] := by
    rw [Text.decimal, String.toList_ofList] at hc
    exact List.mem_cons_of_mem _ (Reader.digit_cases (Reader.isDigit_of_mem_toDigits hc))
  refine closes_of_quiet (fun c hc => hquiet c ?_) n
  cases k with
  | ofNat m => exact hdigits hc
  | negSucc m =>
    rw [Text.decimalInt, String.toList_append] at hc
    cases List.mem_append.1 hc with
    | inl hc =>
      have hminus : c = '-' := List.mem_singleton.1 hc
      simp [hminus]
    | inr hc => exact hdigits hc

theorem closes_null (n : Nat) : Closes n "null".toList := closes_of_quiet (by decide) n

theorem closes_bool (b : Bool) (n : Nat) :
    Closes n (if b then "true" else "false").toList := by
  cases b with
  | true => exact closes_of_quiet (by decide) n
  | false => exact closes_of_quiet (by decide) n

end Closing

theorem Exact.closes_compact {limited : Bool} {v : Value} (h : Exact limited v) :
    Closes v.depth (v.print .compact).toList := by
  have hcomma (n : Nat) : Closes n ",".toList := closes_of_quiet (by decide) n
  induction h with
  | null => exact closes_null 0
  | bool b => exact closes_bool b 0
  | int _ => exact closes_decimalInt _ 0
  | str s => exact closes_jsonQuoted s 0
  | @arr items _ ih =>
    have hrow := closes_intercalate (hcomma (Value.depthOfItems items))
      (List.forall_mem_map.2 (List.forall_mem_map.2 fun v hv =>
        (ih v hv).mono (Value.depth_le_items hv)))
    rw [Value.depth, Value.print, printItems_eq, String.toList_append, String.toList_append,
      String.toList_intercalate]
    exact hrow.bracketed (.inl ⟨rfl, rfl⟩)
  | @obj members _ _ ih =>
    have hcolon : Closes (Value.depthOfMembers members) ":".toList :=
      closes_of_quiet (by decide) _
    have hmember (m : String × Value) (hm : m ∈ members) : Closes (Value.depthOfMembers members)
        (Text.jsonQuoted m.1 ++ ":" ++ m.2.print .compact).toList := by
      rw [String.toList_append, String.toList_append]
      exact ((closes_jsonQuoted m.1 _).append hcolon).append
        ((ih m hm).mono (Value.depth_le_members hm))
    have hrow := closes_intercalate (hcomma (Value.depthOfMembers members))
      (List.forall_mem_map.2 (List.forall_mem_map.2 hmember))
    rw [Value.depth, Value.print, printMembers_eq, String.toList_append, String.toList_append,
      String.toList_intercalate]
    exact hrow.bracketed (.inr ⟨rfl, rfl⟩)

variable {depths : Depths} {v : Value}

/-- A text that spells a value is read as the value, however deep it is. -/
theorem read_of_spells {text : List Char} (h : Reader.Spells true text v) : read text = .ok v := by
  rw [read, h.document]
  rfl

theorem read_of_load {text : List Char} (h : load text = .ok v) : read text = .ok v := by
  rw [load] at h
  split at h
  · cases h
  · exact h

theorem load_of_spells {text : List Char} (h : Reader.Spells true text v)
    (hcloses : Closes v.depth text) (hdepth : v.depth ≤ Depths.reading) : load text = .ok v := by
  obtain ⟨d, hfold, hd⟩ := hcloses ⟨0, 0, false, false⟩ ⟨rfl, rfl⟩
  have hreached : Reader.depth text = d := by
    rw [Reader.depth, hfold]
  dsimp only at hd
  rw [load, read_of_spells h, h.document, Reader.reached, hreached, if_neg (by omega)]

theorem load_printCompact (h : Exact true v) (hdepth : v.depth ≤ Depths.reading) :
    load (v.print .compact).toList = .ok v :=
  load_of_spells h.spells_compact h.closes_compact hdepth

end ExportBundle.Json
