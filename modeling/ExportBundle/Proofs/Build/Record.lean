import ExportBundle.Proofs.Build.Frame
import ExportBundle.Proofs.Json.Depth
import ExportBundle.Proofs.Text.Utf8

/-! The record that a build leaves. Loading it gives what the bytes of its file hold. It reads back
as it was written, and a build that is served from it has found the fingerprint of its own inputs
there. Where an output and a record are already, a delivery cannot fail. -/

namespace ExportBundle

def World.warned {τ σ : Type} (w : World τ σ) (warning : Warning) : World τ σ :=
  { w with warnings := w.warnings ++ [warning] }

variable {depths : Depths}

theorem documentOf_encode {v : Json.Value} (hv : Json.Exact true v) :
    documentOf (Text.Utf8.encode (v.printIndented 0).toList) =
      (Json.load (v.printIndented 0).toList).mapError .document := by
  have hplain : ∀ c ∈ (v.printIndented 0).toList, c.toNat < 128 := by
    intro c hc
    have hc := hv.isPlain hc
    simp only [Json.isPlain, Text.isVisible, Bool.or_eq_true, Bool.and_eq_true, decide_eq_true_eq,
      beq_iff_eq] at hc
    rcases hc with (hc | rfl) | rfl
    · omega
    · decide
    · decide
  have hreturn : '\r' ∉ (v.printIndented 0).toList := fun hc => by
    have hc := hv.isPlain hc
    revert hc
    decide
  rw [documentOf, Text.Utf8.decode_encode_of_ascii hplain]
  dsimp only
  rw [Text.Utf8.unifyLineEnds_of_notMem hreturn]

namespace Build

open Act

variable {τ σ : Type}

namespace Record

def noted (digest time : String) (externals : List String) : Record :=
  ⟨.str digest, .str time, externals.map .str⟩

def bytes (r : Record) : List UInt8 := Text.Utf8.encode (r.toValue.printIndented 0).toList

theorem exact_noted (digest time : String) (externals : List String) :
    Json.Exact true (noted digest time externals).toValue := by
  have hexternals : Json.Exact true (.arr (externals.map .str)) := by
    refine .arr fun v hv => ?_
    obtain ⟨s, _, rfl⟩ := List.mem_map.1 hv
    exact .str s
  refine .obj ?_ fun m hm => ?_
  · simp [OrderedMap.keys]
  · simp only [List.mem_cons, List.not_mem_nil, or_false] at hm
    rcases hm with rfl | rfl | rfl
    · exact .str digest
    · exact .str time
    · exact hexternals

theorem ofValue_toValue (r : Record) : ofValue r.toValue = .ok r := by
  obtain ⟨fingerprint, createdAt, externals⟩ := r
  cases externals <;> rfl

theorem eq_noted {digest time : String} {externals : List String} {v : Json.Value} {r : Record}
    (hv : documentOf (noted digest time externals).bytes = .ok v) (hr : ofValue v = .ok r) :
    r = noted digest time externals := by
  have hexact := exact_noted digest time externals
  rw [bytes, documentOf_encode hexact] at hv
  cases hload : Json.load ((noted digest time externals).toValue.printIndented 0).toList with
  | error e =>
    rw [hload] at hv
    cases hv
  | ok u =>
    rw [hload] at hv
    have hread := Json.read_of_load hload
    rw [Json.read_of_spells (hexact.spells_indented 0)] at hread
    cases hread
    cases hv
    rw [ofValue_toValue] at hr
    exact (Except.ok.inj hr).symm

theorem ofValue_eq_ok {v : Json.Value} {r : Record} (h : ofValue v = .ok r) :
    ∃ members, v = .obj members := by
  cases v with
  | obj members => exact ⟨members, rfl⟩
  | _ => cases h

def ofBytes [Depths] (bytes : List UInt8) : Except Failure (Option Record) :=
  match Text.Utf8.decode bytes with
  | .error m => .error (.encoding m)
  | .ok cs =>
    match Json.load (Text.Utf8.unifyLineEnds cs) with
    | .ok v => .ok (ofValue v).toOption
    | .error (.malformed ..) => .ok none
    | .error e => .error (.document e)

theorem ofBytes_eq_some_iff {bytes : List UInt8} {r : Record} :
    ofBytes bytes = .ok (some r) ↔
      ∃ members, documentOf bytes = .ok (.obj members) ∧ ofValue (.obj members) = .ok r := by
  have hsome : ofBytes bytes = .ok (some r) ↔
      ∃ v, documentOf bytes = .ok v ∧ ofValue v = .ok r := by
    unfold ofBytes documentOf
    cases Text.Utf8.decode bytes with
    | error m => simp
    | ok cs =>
      rcases hload : Json.load (Text.Utf8.unifyLineEnds cs) with r | v
      · cases r <;> simp [Except.mapError, hload]
      · rcases hv : ofValue v with m | r <;> simp [Except.mapError, hload, hv, Except.toOption]
  rw [hsome]
  constructor
  · rintro ⟨v, hv, hr⟩
    obtain ⟨members, rfl⟩ := ofValue_eq_ok hr
    exact ⟨members, hv, hr⟩
  · rintro ⟨members, hv, hr⟩
    exact ⟨_, hv, hr⟩

end Record

theorem perform_loadRecord {out : Path} {w : World τ σ} {bytes : List UInt8}
    (hread : w.disk.read w.here (out.child recordName) = .ok bytes) :
    (loadRecord out).perform w = match Record.ofBytes bytes with
      | .error e => (.error e, w)
      | .ok none => (.ok none, w.warned (.unreadableRecord (out.child recordName)))
      | .ok (some r) => (.ok (some r), w) := by
  have hask : (isFile (out.child recordName) : Act τ σ Bool).perform w = (.ok true, w) :=
    inquire_eq_ok_iff.2 ⟨Disk.isFile_of_read hread, rfl⟩
  rw [loadRecord, perform_bind, hask]
  dsimp only
  rw [Bool.not_true, if_neg Bool.false_ne_true, perform_bind, perform_readText, hread]
  dsimp only
  unfold Record.ofBytes
  cases Text.Utf8.decode bytes with
  | error m => rfl
  | ok cs =>
    dsimp only
    rcases Json.load (Text.Utf8.unifyLineEnds cs) with r | v
    · cases r <;> rfl
    · dsimp only
      cases Record.ofValue v <;> rfl

theorem loadRecord_eq_some {out : Path} {w v : World τ σ} {r : Record}
    (h : (loadRecord out).perform w = (.ok (some r), v)) :
    ∃ bytes doc, w.disk.read w.here (out.child recordName) = .ok bytes ∧
      documentOf bytes = .ok doc ∧ Record.ofValue doc = .ok r := by
  have hread : ∃ bytes, w.disk.read w.here (out.child recordName) = .ok bytes := by
    obtain ⟨there, _, hask, h⟩ := bind_eq_ok_iff.1 h
    obtain ⟨hthere, rfl⟩ := inquire_eq_ok_iff.1 hask
    cases there with
    | false => cases h
    | true =>
      obtain ⟨hleads, bytes, hfile⟩ := Disk.isFile_eq_true_iff.1 hthere
      exact ⟨bytes, Disk.read_eq_ok_iff.2 ⟨hleads, hfile⟩⟩
  obtain ⟨bytes, hread⟩ := hread
  rw [perform_loadRecord hread] at h
  rcases hrecord : Record.ofBytes bytes with e | _ | r' <;> rw [hrecord] at h <;> cases h
  obtain ⟨members, hdoc, hr⟩ := Record.ofBytes_eq_some_iff.1 hrecord
  exact ⟨bytes, _, hread, hdoc, hr⟩

theorem loadRecord_of_read {out : Path} {w : World τ σ} {r : Record} {bytes : List UInt8}
    {doc : Json.Value} (hread : w.disk.read w.here (out.child recordName) = .ok bytes)
    (hdoc : documentOf bytes = .ok doc) (hr : Record.ofValue doc = .ok r) :
    (loadRecord out).perform w = (.ok (some r), w) := by
  obtain ⟨members, rfl⟩ := Record.ofValue_eq_ok hr
  rw [perform_loadRecord hread, Record.ofBytes_eq_some_iff.2 ⟨members, hdoc, hr⟩]

/-- What a record has to be for a build to be served from it. -/
structure Found [Depths] (d : Disk) (here : Location) (out : Path) (inputs : Json.Value) (r : Record) :
    Prop where
  record : ∃ bytes doc, d.read here (out.child recordName) = .ok bytes ∧
    documentOf bytes = .ok doc ∧ Record.ofValue doc = .ok r
  output : d.isFile here (out.child outputName) = .ok true
  digest : ∃ digest, Canonical.fingerprint (.ofJson inputs) = .ok digest ∧
    r.fingerprint.text? = some digest

theorem lookup_eq_some {out : Path} {inputs : Json.Value} {w v : World τ σ} {r : Record}
    (h : (lookup out inputs).perform w = (.ok (some r), v)) :
    Found w.disk w.here out inputs r := by
  obtain ⟨known, u, hknown, h⟩ := bind_eq_ok_iff.1 h
  cases known with
  | none => cases h
  | some r' =>
    have hagrees := moves_loadRecord moves_warnAll out w
    rw [hknown] at hagrees
    obtain ⟨there, _, hask, h⟩ := bind_eq_ok_iff.1 h
    obtain ⟨hthere, rfl⟩ := inquire_eq_ok_iff.1 hask
    rw [hagrees.disk, hagrees.here] at hthere
    cases there with
    | false => cases h
    | true =>
      rw [Bool.not_true, if_neg Bool.false_ne_true] at h
      obtain ⟨digest, _, hlift, hreturn⟩ := bind_eq_ok_iff.1 h
      obtain ⟨hdigest, rfl⟩ := lift_eq_ok_iff.1 hlift
      rw [perform_pure] at hreturn
      have hresult := Except.ok.inj (Prod.mk.inj hreturn).1
      split at hresult
      · rename_i htext
        obtain rfl := Option.some.inj hresult
        exact ⟨loadRecord_eq_some hknown, hthere, digest, hdigest, htext⟩
      · cases hresult

theorem lookup_of_found {out : Path} {inputs : Json.Value} {w : World τ σ} {r : Record}
    (h : Found w.disk w.here out inputs r) :
    (lookup out inputs).perform w = (.ok (some r), w) := by
  obtain ⟨bytes, doc, hread, hdoc, hr⟩ := h.record
  obtain ⟨digest, hdigest, htext⟩ := h.digest
  have hask : (isFile (out.child outputName) : Act τ σ Bool).perform w = (.ok true, w) :=
    inquire_eq_ok_iff.2 ⟨h.output, rfl⟩
  have hlift : (fingerprint inputs : Act τ σ String).perform w = (.ok digest, w) :=
    lift_eq_ok_iff.2 ⟨hdigest, rfl⟩
  refine bind_eq_ok_iff.2 ⟨some r, w, loadRecord_of_read hread hdoc hr, ?_⟩
  refine bind_eq_ok_iff.2 ⟨true, w, hask, bind_eq_ok_iff.2 ⟨digest, w, hlift, ?_⟩⟩
  rw [if_pos htext]
  rfl

/-! Deliveries -/

theorem place_output_ne_record (out : Path) (here : Location) :
    (out.child recordName).place here ≠ (out.child outputName).place here := by
  rw [place_output, place_record]
  intro h
  exact absurd (List.append_cancel_left h) (by decide)

theorem saveRecord_eq_ok {out : Path} {inputs : Json.Value} {externals : List String}
    {r : Record} {w v : World τ σ} (hdir : w.disk.isDirectory w.here out = .ok true)
    (h : (saveRecord out inputs externals).perform w = (.ok r, v)) :
    ∃ digest time e, Canonical.fingerprint (.ofJson inputs) = .ok digest ∧
      w.disk.write w.here (out.child recordName) (Record.noted digest time externals).bytes =
        .ok e ∧ v = { w with disk := e } := by
  obtain ⟨digest, _, hlift, hrest⟩ := bind_eq_ok_iff.1 h
  obtain ⟨hdigest, rfl⟩ := lift_eq_ok_iff.1 hlift
  obtain ⟨u, _, hget, hrest⟩ := bind_eq_ok_iff.1 hrest
  rw [perform_get] at hget
  cases hget
  obtain ⟨_, _, hmake, hrest⟩ := bind_eq_ok_iff.1 hrest
  rw [makeDirectories_of_isDirectory hdir] at hmake
  cases hmake
  obtain ⟨_, _, hwriting, hreturn⟩ := bind_eq_ok_iff.1 hrest
  obtain ⟨e, hwrite, rfl⟩ := writeBytes_eq_ok_iff.1 hwriting
  cases hreturn
  exact ⟨digest, _, e, hdigest, hwrite, rfl⟩

/-- A record is not written because the inputs have no fingerprint, or the disk refuses the directory
or the file. -/
theorem saveRecord_fails {out : Path} {inputs : Json.Value} {externals : List String}
    {e : Failure} {w v : World τ σ}
    (h : (saveRecord out inputs externals).perform w = (.error e, v)) :
    (∃ m, Canonical.fingerprint (.ofJson inputs) = .error m ∧ e = .canonical m ∧ v = w) ∨
      (makeDirectories out).perform w = (.error e, v) ∨
      ∃ bytes, (makeDirectories out).perform w = (.ok (), v) ∧
        (writeBytes (out.child recordName) bytes).perform v = (.error e, v) := by
  rcases bind_eq_error_iff.1 h with hdigest | ⟨digest, _, hlift, hrest⟩
  · exact .inl (lift_eq_error_iff.1 hdigest)
  obtain ⟨_, rfl⟩ := lift_eq_ok_iff.1 hlift
  rcases bind_eq_error_iff.1 hrest with hget | ⟨u, _, hget, hrest⟩
  · cases hget
  cases hget
  rcases bind_eq_error_iff.1 hrest with hmake | ⟨_, u', hmake, hrest⟩
  · exact .inr (.inl hmake)
  rcases bind_eq_error_iff.1 hrest with hwrite | ⟨_, _, _, hreturn⟩
  · obtain ⟨_, _, _, rfl⟩ := writeBytes_eq_error_iff.1 hwrite
    exact .inr (.inr ⟨_, hmake, hwrite⟩)
  · cases hreturn

theorem saveRecord_of_there {out : Path} {inputs : Json.Value} (externals : List String)
    {digest : String} {old : List UInt8} {w : World τ σ}
    (hdigest : Canonical.fingerprint (.ofJson inputs) = .ok digest)
    (hdir : w.disk.isDirectory w.here out = .ok true)
    (hold : w.disk.read w.here (out.child recordName) = .ok old) :
    ∃ r bytes, (saveRecord out inputs externals).perform w =
      (.ok r, { w with
        disk := w.disk.put ((out.child recordName).place w.here) (.file bytes) }) := by
  have hlift : (fingerprint inputs : Act τ σ String).perform w = (.ok digest, w) :=
    lift_eq_ok_iff.2 ⟨hdigest, rfl⟩
  refine ⟨Record.noted digest w.time externals, (Record.noted digest w.time externals).bytes,
    bind_eq_ok_iff.2 ⟨digest, w, hlift, ?_⟩⟩
  refine bind_eq_ok_iff.2 ⟨w, w, rfl, ?_⟩
  refine bind_eq_ok_iff.2 ⟨(), w, makeDirectories_of_isDirectory hdir, ?_⟩
  exact bind_eq_ok_iff.2
    ⟨(), _, writeBytes_eq_ok_iff.2 ⟨_, Disk.write_of_read hold _, rfl⟩, rfl⟩

theorem deliver_eq_ok {kit : Kit τ} {config : Config} {inputs : Json.Value}
    {externals : List String} {source : String} {w v : World τ σ}
    (h : (deliver kit config inputs externals source).perform w = (.ok (), v)) :
    kit.listener (.writing (config.out.child outputName)) = .ok () ∧
      v.disk.isDirectory v.here config.out = .ok true ∧
      v.disk.read v.here (config.out.child outputName) =
        .ok (Text.Utf8.encode source.toList) ∧
      ∃ digest time, Canonical.fingerprint (.ofJson inputs) = .ok digest ∧
        v.disk.read v.here (config.out.child recordName) =
          .ok (Record.noted digest time externals).bytes := by
  obtain ⟨_, u, hannounce, hrest⟩ := bind_eq_ok_iff.1 h
  obtain ⟨hlistener, -⟩ := announce_eq_ok_iff.1 hannounce
  rw [parent_output] at hrest
  obtain ⟨_, u₁, hmake, hrest⟩ := bind_eq_ok_iff.1 hrest
  obtain ⟨hu₁, hdir⟩ := makeDirectories_eq_ok hmake
  have hhere : u₁.here = u.here := by rw [hu₁]
  rw [← hhere] at hdir
  obtain ⟨_, _, hwriting, hrest⟩ := bind_eq_ok_iff.1 hrest
  obtain ⟨e, hwrite, rfl⟩ := writeBytes_eq_ok_iff.1 hwriting
  obtain ⟨_, htakes, rfl⟩ := Disk.write_eq_ok_iff.1 hwrite
  have hdir' := Disk.isDirectory_put (.file (Text.Utf8.encode source.toList)) hdir
    htakes.ne_directory
  obtain ⟨r, v', hsave, hreturn⟩ := bind_eq_ok_iff.1 hrest
  obtain ⟨digest, time, e, hdigest, hrecord, rfl⟩ := saveRecord_eq_ok hdir' hsave
  obtain ⟨_, htakes', rfl⟩ := Disk.write_eq_ok_iff.1 hrecord
  cases hreturn
  refine ⟨hlistener, Disk.isDirectory_put _ hdir' htakes'.ne_directory, ?_, digest, time, hdigest,
    Disk.read_of_write hrecord⟩
  exact Disk.read_put _ (Disk.read_of_write hwrite) htakes'.ne_directory
    (place_output_ne_record _ _)

theorem deliver_of_there {kit : Kit τ} {config : Config} {inputs : Json.Value}
    {externals : List String} {source digest : String} {old old' : List UInt8} {w : World τ σ}
    (hlistener : kit.listener (.writing (config.out.child outputName)) = .ok ())
    (hdigest : Canonical.fingerprint (.ofJson inputs) = .ok digest)
    (hdir : w.disk.isDirectory w.here config.out = .ok true)
    (hold : w.disk.read w.here (config.out.child outputName) = .ok old)
    (hold' : w.disk.read w.here (config.out.child recordName) = .ok old') :
    ∃ v, (deliver kit config inputs externals source).perform w = (.ok (), v) := by
  have hannounce : (kit.announce (.writing (config.out.child outputName)) :
      Act τ σ Unit).perform w = (.ok (), { w with
        steps := w.steps ++ [.writing (config.out.child outputName)] }) :=
    announce_eq_ok_iff.2 ⟨hlistener, rfl⟩
  obtain ⟨_, hfile⟩ := Disk.read_eq_ok_iff.1 hold
  have hne : w.disk.lookup ((config.out.child outputName).place w.here) ≠ some .directory := by
    rw [hfile]
    simp
  have hdir' := Disk.isDirectory_put (.file (Text.Utf8.encode source.toList)) hdir hne
  have hrecord := Disk.read_put (.file (Text.Utf8.encode source.toList)) hold' hne
    (place_output_ne_record _ _).symm
  obtain ⟨r, bytes, hsave⟩ := saveRecord_of_there (σ := σ) (τ := τ) externals
    (w := { w with
      disk := w.disk.put ((config.out.child outputName).place w.here)
        (.file (Text.Utf8.encode source.toList))
      steps := w.steps ++ [.writing (config.out.child outputName)] }) hdigest hdir' hrecord
  have hparent : w.disk.isDirectory w.here (config.out.child outputName).parent = .ok true := by
    rw [parent_output]
    exact hdir
  exact ⟨_, bind_eq_ok_iff.2 ⟨(), _, hannounce, bind_eq_ok_iff.2
    ⟨(), _, makeDirectories_of_isDirectory hparent, bind_eq_ok_iff.2
      ⟨(), _, writeBytes_eq_ok_iff.2 ⟨_, Disk.write_of_read hold _, rfl⟩,
        bind_eq_ok_iff.2 ⟨_, _, hsave, rfl⟩⟩⟩⟩⟩

end Build

end ExportBundle
