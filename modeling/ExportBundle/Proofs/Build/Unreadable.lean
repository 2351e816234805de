import ExportBundle.Proofs.Build.Rebuild

/-! The file of a record, whatever its bytes are. Text that is no document, and a document that is
no record, count as no record, with a warning. A file that is not UTF-8, and a document beyond the
limits of the reader, are not taken for that: they end a build that looks for a record. Every other
build that finds no record of its own inputs does what it does without looking for one. -/

namespace ExportBundle.Build

open Act
open Json (Value)

namespace Record

variable {depths : Depths} {bytes : List UInt8}

/-- The contents that cannot be read: those that are not UTF-8, and documents with a number that is
too long or with values that stand too deep in each other. -/
theorem ofBytes_eq_error_iff {e : Failure} :
    ofBytes bytes = .error e ↔
      (∃ m, Text.Utf8.decode bytes = .error m ∧ e = .encoding m) ∨
        ∃ cs, Text.Utf8.decode bytes = .ok cs ∧
          ((∃ n, Json.load (Text.Utf8.unifyLineEnds cs) = .error (.numberTooLong n) ∧
              e = .document (.numberTooLong n)) ∨
            Json.load (Text.Utf8.unifyLineEnds cs) = .error .tooDeep ∧ e = .document .tooDeep) := by
  unfold ofBytes
  cases Text.Utf8.decode bytes with
  | error m => simp [eq_comm]
  | ok cs =>
    rcases hload : Json.load (Text.Utf8.unifyLineEnds cs) with r | v
    · cases r <;> simp [hload, eq_comm]
    · simp [hload]

example : ofBytes [0xff] = .error (.encoding ⟨0xff, 0, 1, .invalidStart⟩) := rfl

theorem ofBytes_eq_none_iff :
    ofBytes bytes = .ok none ↔
      ∃ cs, Text.Utf8.decode bytes = .ok cs ∧
        ((∃ fault line column offset, Json.load (Text.Utf8.unifyLineEnds cs) =
            .error (.malformed fault line column offset)) ∨
          ∃ v m, Json.load (Text.Utf8.unifyLineEnds cs) = .ok v ∧ ofValue v = .error m) := by
  unfold ofBytes
  cases Text.Utf8.decode bytes with
  | error m => simp
  | ok cs =>
    rcases hload : Json.load (Text.Utf8.unifyLineEnds cs) with r | v
    · cases r <;> simp [hload]
    · rcases hv : ofValue v with m | r <;> simp [hload, hv, Except.toOption]

end Record

variable {depths : Depths} {τ σ : Type} {out : Path} {bytes : List UInt8} {w : World τ σ}

/-! Looking for the record of some inputs -/

section Lookup

variable {inputs : Value}

theorem lookup_of_missing (h : w.disk.isFile w.here (out.child recordName) = .ok false) :
    (lookup out inputs).perform w = (.ok none, w) := by
  have hask : (isFile (out.child recordName) : Act τ σ Bool).perform w = (.ok false, w) :=
    inquire_eq_ok_iff.2 ⟨h, rfl⟩
  rw [lookup, loadRecord, bind_assoc, perform_bind, hask]
  rfl

variable (hread : w.disk.read w.here (out.child recordName) = .ok bytes)

include hread

theorem lookup_of_unread {e : Failure} (h : Record.ofBytes bytes = .error e) :
    (lookup out inputs).perform w = (.error e, w) := by
  rw [lookup, perform_bind, perform_loadRecord hread, h]

theorem lookup_of_no_record (h : Record.ofBytes bytes = .ok none) :
    (lookup out inputs).perform w =
      (.ok none, w.warned (.unreadableRecord (out.child recordName))) := by
  rw [lookup, perform_bind, perform_loadRecord hread, h]
  rfl

theorem isFile_output : ∃ there, w.disk.isFile w.here (out.child outputName) = .ok there := by
  have hleads := (Disk.read_eq_ok_iff.1 hread).1
  rw [child_record] at hleads
  rw [child_output]
  exact hleads.isFile_sibling (.inr (by decide)) (by decide)

theorem lookup_of_not_found {r : Record} {digest : String}
    (h : Record.ofBytes bytes = .ok (some r))
    (hdigest : Canonical.fingerprint (.ofJson inputs) = .ok digest)
    (hnot : ¬ Found w.disk w.here out inputs r) :
    (lookup out inputs).perform w = (.ok none, w) := by
  obtain ⟨members, hdoc, hr⟩ := Record.ofBytes_eq_some_iff.1 h
  obtain ⟨there, hthere⟩ := isFile_output hread
  have hask : (isFile (out.child outputName) : Act τ σ Bool).perform w = (.ok there, w) :=
    inquire_eq_ok_iff.2 ⟨hthere, rfl⟩
  rw [lookup, perform_bind, perform_loadRecord hread, h]
  dsimp only
  rw [perform_bind, hask]
  cases there with
  | false => rfl
  | true =>
    have htext : r.fingerprint.text? ≠ some digest := fun htext =>
      hnot ⟨⟨bytes, _, hread, hdoc, hr⟩, hthere, digest, hdigest, htext⟩
    have hlift : (fingerprint inputs : Act τ σ String).perform w = (.ok digest, w) :=
      lift_eq_ok_iff.2 ⟨hdigest, rfl⟩
    dsimp only
    rw [Bool.not_true, if_neg Bool.false_ne_true, perform_bind, hlift]
    dsimp only
    rw [if_neg htext]
    rfl

end Lookup

/-! Builds that look for a record and builds that do not -/

section Builds

variable [Identifier.Supply σ] {kit : Kit τ} {config : Config} {project : Path} {u : World τ σ}
  {nodes : List Export.Node} {inputs : Value}

theorem build_eq_search_bind (kit : Kit τ) (config : Config) (project : Path) (force : Bool) :
    (build kit config project force : Act τ σ Result) =
      search kit config project true >>= fun (nodes, inputs, _) =>
        known force config.out inputs >>= conclude kit config project inputs nodes := by
  rw [build_eq_bind]
  simp only [search, known, if_true, bind_assoc, pure_bind]

theorem build_of_unprepared (h : ∀ u nodes inputs, ¬ Prepared kit config project w u nodes inputs) :
    ∃ e v, ∀ force, (build kit config project force).perform w = (.error e, v) := by
  rcases hsearch : (search kit config project true).perform w with ⟨e | ⟨nodes, inputs, record⟩, v⟩
  · refine ⟨e, v, fun force => ?_⟩
    rw [build_eq_search_bind, perform_bind, hsearch]
  · obtain ⟨u, hprepared, _⟩ := search_eq_ok hsearch
    exact absurd hprepared (h u nodes inputs)

theorem perform_build_unforced (h : Prepared kit config project w u nodes inputs) :
    (build kit config project false).perform w =
      (lookup config.out inputs >>= conclude kit config project inputs nodes).perform u := by
  rw [perform_build h, known, if_neg Bool.false_ne_true]

theorem Prepared.warned (h : Prepared kit config project w u nodes inputs) (warning : Warning) :
    Prepared kit config project (w.warned warning) (u.warned warning) nodes inputs := by
  refine ⟨h.announced, h.compiled, h.inputs, ?_⟩
  rw [h.world]
  rfl

theorem build_of_missing (h : Prepared kit config project w u nodes inputs)
    (hmissing : w.disk.isFile w.here (config.out.child recordName) = .ok false) :
    (build kit config project false).perform w = (build kit config project true).perform w := by
  rw [← h.agrees.disk, ← h.agrees.here] at hmissing
  rw [perform_build_unforced h, perform_build_forced h, perform_bind, lookup_of_missing hmissing]

/-- A build where there is a file for the record, whatever is in it. If the file cannot be read the
build fails. If there is no record in it the build warns and goes on without one. Otherwise it is
served from the record if that is one of its inputs, and goes on without it if not. -/
theorem build_of_read {digest : String} (h : Prepared kit config project w u nodes inputs)
    (hdigest : Canonical.fingerprint (.ofJson inputs) = .ok digest)
    (hread : w.disk.read w.here (config.out.child recordName) = .ok bytes) :
    (∃ e, Record.ofBytes bytes = .error e ∧
        (build kit config project false).perform w = (.error e, u)) ∨
      (Record.ofBytes bytes = .ok none ∧
        (build kit config project false).perform w = (build kit config project true).perform
          (w.warned (.unreadableRecord (config.out.child recordName)))) ∨
      ∃ r, Record.ofBytes bytes = .ok (some r) ∧
        (Found w.disk w.here config.out inputs r ∧
            (build kit config project false).perform w =
              (conclude kit config project inputs nodes (some r)).perform u ∨
          ¬ Found w.disk w.here config.out inputs r ∧
            (build kit config project false).perform w =
              (build kit config project true).perform w) := by
  have hthen := hread
  rw [← h.agrees.disk, ← h.agrees.here] at hthen
  rcases hrecord : Record.ofBytes bytes with e | _ | r
  · refine .inl ⟨e, rfl, ?_⟩
    rw [perform_build_unforced h, perform_bind, lookup_of_unread hthen hrecord]
  · refine .inr (.inl ⟨rfl, ?_⟩)
    rw [perform_build_unforced h, perform_bind, lookup_of_no_record hthen hrecord,
      perform_build_forced (h.warned _)]
  · refine .inr (.inr ⟨r, rfl, ?_⟩)
    by_cases hfound : Found w.disk w.here config.out inputs r
    · exact .inl ⟨hfound, perform_build_found h hfound⟩
    · refine .inr ⟨hfound, ?_⟩
      have hnot := hfound
      rw [← h.agrees.disk, ← h.agrees.here] at hnot
      rw [perform_build_unforced h, perform_build_forced h, perform_bind,
        lookup_of_not_found hthen hrecord hdigest hnot]

end Builds

end ExportBundle.Build
