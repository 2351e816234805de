import ExportBundle.CommandLine
import ExportBundle.Proofs.Build.Leftovers
import ExportBundle.Proofs.Dependency.Decisions
import ExportBundle.Proofs.Dependency.Lockfile

/-! What the comparison of two lockfiles ends in, whatever the files hold. Two lockfiles give
decisions, as long as their versions can be compared. A path that leads to no lockfile is told with
exit code one if the file is missing or is not JSON; a file that is not UTF-8, a document beyond the
limits of the reader and a document of another shape are not told. Main statements: the comparison
ends in exactly these ways, and what is not JSON can always be told. -/

namespace ExportBundle

/-! The messages about files -/

section Untagged

open Display (Untagged)

theorem suffix_of_suffix_append {cs r more : List Char} (hcs : '[' ∉ cs)
    (h : '[' :: r <:+ cs ++ more) : '[' :: r <:+ more := by
  induction cs with
  | nil => exact h
  | cons c cs ih =>
    obtain ⟨hc, hcs⟩ := not_or.1 (fun hmem => hcs (List.mem_cons.2 hmem))
    rcases List.suffix_cons_iff.1 h with heq | h
    · exact absurd (List.cons.inj heq).1 hc
    · exact ih hcs h

theorem untagged_append {text message : String} (htext : '[' ∉ text.toList)
    (h : Untagged message) : Untagged (text ++ message) := by
  intro c r hsuffix
  rw [String.toList_append] at hsuffix
  exact h c r (suffix_of_suffix_append htext hsuffix)

theorem bracket_notMem_decimal (n : Nat) : '[' ∉ (Text.decimal n).toList := by
  rw [Text.decimal, String.toList_ofList]
  intro h
  exact absurd (Nat.isDigit_of_mem_toDigits (by decide) (by decide) h) (by decide)

theorem untagged_malformed (fault : Json.Fault) (line column offset : Nat) :
    Untagged (Json.ReadError.malformed fault line column offset).message := by
  have hfault : '[' ∉ fault.message.toList := by cases fault <;> decide
  have hmessage : '[' ∉ (Json.ReadError.malformed fault line column offset).message.toList := by
    simp [Json.ReadError.message, hfault, bracket_notMem_decimal]
  intro c r hsuffix
  exact absurd (hsuffix.subset List.mem_cons_self) hmessage

theorem untagged_missing {p : Path} (h : Untagged (Text.literal p.text)) :
    Untagged (Disk.Fault.message ⟨.missing, p⟩) := by
  have hplain : Untagged ("Errno 2] No such file or directory: " ++ Text.literal p.text) :=
    untagged_append (by decide) h
  intro c r hsuffix
  have hmessage : (Disk.Fault.message ⟨.missing, p⟩).toList =
      '[' :: ("Errno 2] No such file or directory: " ++ Text.literal p.text).toList := by
    simp only [Disk.Fault.message, Disk.Cause.message, String.toList_append]
    rfl
  rw [hmessage] at hsuffix
  rcases List.suffix_cons_iff.1 hsuffix with heq | hsuffix
  · rw [String.toList_append] at heq
    obtain rfl : c = 'E' := (List.cons.inj (List.cons.inj heq).2).1
    decide
  · exact hplain c r hsuffix

end Untagged

open Json (Value)

/-- A document that is no lockfile: it has no installed paths, and its table of dependencies is
none. -/
def Json.Value.NoLock (lock : Value) : Prop :=
  lock.Tableless ∧ ∀ members table : OrderedMap String Value, lock = .obj members →
    members.get? "packages" = some (.obj table) → table = []

theorem Snapshot.namedTable_eq_error_iff {members : OrderedMap String Value} {m : Json.Misuse} :
    namedTable members = .error m ↔ m = .noMembers ∧ (Value.obj members).Tableless := by
  rw [namedTable, Value.tableless_obj_iff]
  cases htable : members.get? "dependencies" with
  | none => simp
  | some table =>
    cases hvoid : table.isVoid with
    | true => simp [hvoid]
    | false => simp [Value.requireMembers_eq_error_iff, hvoid]

theorem Snapshot.ofLock_eq_error_iff {label : String} {lock : Value} {m : Json.Misuse} :
    ofLock label lock = .error m ↔ m = .noMembers ∧ lock.NoLock := by
  cases lock with
  | obj members =>
    by_cases hinstalled : ∃ table : OrderedMap String Value,
        OrderedMap.get? members "packages" = some (.obj table) ∧ table ≠ []
    · obtain ⟨table, hpackages, hne⟩ := hinstalled
      rw [ofLock_installed hpackages hne]
      refine ⟨fun h => ?_, fun h => absurd (h.2.2 members table rfl hpackages) hne⟩
      cases h
    · have hempty (table : OrderedMap String Value)
          (htable : OrderedMap.get? members "packages" = some (.obj table)) : table = [] := by
        by_contra hne
        exact hinstalled ⟨table, htable, hne⟩
      have hlock : ofLock label (.obj members) =
          namedTable members >>= fun table => .ok ⟨label, ofNamed table⟩ := by
        simp only [ofLock, Value.requireMembers, bind, Except.bind]
        split
        · rename_i hpackages
          cases hempty _ hpackages
        · rfl
      have hbind : ofLock label (.obj members) = .error m ↔ namedTable members = .error m := by
        rw [hlock]
        cases namedTable members <;> simp [bind, Except.bind]
      rw [hbind, namedTable_eq_error_iff]
      refine and_congr_right fun _ => ⟨fun h => ⟨h, ?_⟩, fun h => h.1⟩
      intro members' table hmembers
      cases hmembers
      exact hempty table
  | _ =>
    refine ⟨fun h => ?_, fun h => ?_⟩
    · cases h
      refine ⟨rfl, .other rfl, fun _ _ hmembers => ?_⟩
      cases hmembers
    · rw [h.1]
      rfl

example : Snapshot.ofLock "super" (.arr []) = .error .noMembers := rfl

variable {depths : Depths}

/-- Where a package on both sides has two versions, these can be compared, and otherwise what is no
version can be shown. -/
def Comparable [Depths] (host bundled : OrderedMap String Value) : Prop :=
  ∀ pair ∈ shared host bundled, ¬ NotShown pair.2.1 pair.2.2 ∧
    ∀ v w, Version.ofValue pair.2.1 = .ok v → Version.ofValue pair.2.2 = .ok w →
      v.Legible ∧ w.Legible

theorem exists_decisions_iff {host bundled : OrderedMap String Value} :
    (∃ ds, decisions host bundled = .ok ds) ↔ Comparable host bundled := by
  constructor
  · rintro ⟨ds, hds⟩ pair hpair
    refine exists_isProvided_iff.1 ?_
    obtain ⟨d, -, hd⟩ := Canonical.exists_of_forall₂ (Canonical.forall₂_of_mapM hds)
      ((Sorting.mem_sort _).2 hpair)
    obtain ⟨answer, hanswer, -⟩ := Canonical.exists_of_bind_eq_ok hd
    exact ⟨answer, hanswer⟩
  · intro h
    refine ⟨_, mapM_eq_ok (g := settled) fun pair hpair => ?_⟩
    obtain ⟨answer, hanswer⟩ := exists_isProvided_iff.2 (h pair ((Sorting.mem_sort _).1 hpair))
    rw [decideOne, settled, hanswer]
    rfl

variable {τ σ : Type}

namespace Build

open Act

def Locked [Depths] (d : Disk) (here : Location) (p : Path) (label : String) (s : Snapshot) : Prop :=
  ∃ directory bytes, d.isDirectory here p = .ok directory ∧
    d.read here (lockPath p directory) = .ok bytes ∧ lockSnapshot label (some bytes) = .ok s

/-- How a path leads to no lockfile. -/
inductive Unlocked [Depths] (d : Disk) (here : Location) (p : Path) : Failure → Prop
  | sought {f : Disk.Fault} (h : d.isDirectory here p = .error f) : Unlocked d here p (.disk f)
  | unread {directory : Bool} {e : Failure} (h : d.isDirectory here p = .ok directory)
    (hunread : Unread d here (lockPath p directory) e) : Unlocked d here p e
  | document {directory : Bool} {bytes : List UInt8} {cs : List Char} {r : Json.ReadError}
    (h : d.isDirectory here p = .ok directory)
    (hread : d.read here (lockPath p directory) = .ok bytes)
    (hbytes : Text.Utf8.decode bytes = .ok cs)
    (hload : Json.load (Text.Utf8.unifyLineEnds cs) = .error r) : Unlocked d here p (.document r)
  | noLock {directory : Bool} {bytes : List UInt8} {lock : Value}
    (h : d.isDirectory here p = .ok directory)
    (hread : d.read here (lockPath p directory) = .ok bytes)
    (hdocument : documentOf bytes = .ok lock) (hlock : lock.NoLock) :
    Unlocked d here p (.misuse .noMembers)

theorem documentOf_eq_error_iff {bytes : List UInt8} {e : Failure} :
    documentOf bytes = .error e ↔
      (∃ m, Text.Utf8.decode bytes = .error m ∧ e = .encoding m) ∨
        ∃ cs r, Text.Utf8.decode bytes = .ok cs ∧
          Json.load (Text.Utf8.unifyLineEnds cs) = .error r ∧ e = .document r := by
  unfold documentOf
  cases Text.Utf8.decode bytes with
  | error m => simp [eq_comm]
  | ok cs =>
    cases hload : Json.load (Text.Utf8.unifyLineEnds cs) <;>
      simp [Except.mapError, hload, eq_comm]

theorem lockSnapshot_eq_error_iff {label : String} {bytes : List UInt8} {e : Failure} :
    lockSnapshot label (some bytes) = .error e ↔ documentOf bytes = .error e ∨
      ∃ lock, documentOf bytes = .ok lock ∧ lock.NoLock ∧ e = .misuse .noMembers := by
  rw [lockSnapshot]
  cases documentOf bytes with
  | error e' => simp [bind, Except.bind]
  | ok lock =>
    cases hlock : Snapshot.ofLock label lock with
    | error m =>
      obtain ⟨rfl, hno⟩ := Snapshot.ofLock_eq_error_iff.1 hlock
      simp [bind, Except.bind, Except.mapError, hlock, hno, eq_comm]
    | ok s =>
      have hno : ¬ lock.NoLock := fun hno => by
        rw [Snapshot.ofLock_eq_error_iff.2 ⟨rfl, hno⟩] at hlock
        cases hlock
      simp [bind, Except.bind, Except.mapError, hlock, hno]

variable {label : String} {p : Path} {w v : World τ σ} {s : Snapshot} {e : Failure}

theorem readLock_eq_ok_iff :
    (readLock label p).perform w = (.ok s, v) ↔ Locked w.disk w.here p label s ∧ v = w := by
  rw [readLock_eq, Prod.mk.injEq, eq_comm (b := v)]
  refine and_congr_left fun _ => ⟨fun h => ?_, ?_⟩
  · split at h
    · cases h
    · rename_i directory hdirectory
      split at h
      · cases h
      · rename_i bytes hread
        exact ⟨directory, bytes, hdirectory, hread, h⟩
  · rintro ⟨directory, bytes, hdirectory, hread, hlock⟩
    simp only [hdirectory, hread, hlock]

theorem readLock_eq_error_iff :
    (readLock label p).perform w = (.error e, v) ↔ Unlocked w.disk w.here p e ∧ v = w := by
  rw [readLock_eq, Prod.mk.injEq, eq_comm (b := v)]
  refine and_congr_left fun _ => ⟨fun h => ?_, fun h => ?_⟩
  · split at h
    · rename_i hdirectory
      cases h
      exact .sought hdirectory
    · rename_i directory hdirectory
      split at h
      · rename_i hread
        cases h
        exact .unread hdirectory (.refused hread)
      · rename_i bytes hread
        rcases lockSnapshot_eq_error_iff.1 h with hno | ⟨lock, hdocument, hlock, rfl⟩
        · rcases documentOf_eq_error_iff.1 hno with ⟨m, hbytes, rfl⟩ | ⟨cs, r, hbytes, hload, rfl⟩
          · exact .unread hdirectory (.notText hread hbytes)
          · exact .document hdirectory hread hbytes hload
        · exact .noLock hdirectory hread hdocument hlock
  · cases h with
    | sought h => simp only [h]
    | unread h hunread =>
      cases hunread with
      | refused hread => simp only [h, hread]
      | notText hread hbytes =>
        simp only [h, hread]
        exact lockSnapshot_eq_error_iff.2 (.inl (documentOf_eq_error_iff.2 (.inl ⟨_, hbytes, rfl⟩)))
    | document h hread hbytes hload =>
      simp only [h, hread]
      exact lockSnapshot_eq_error_iff.2
        (.inl (documentOf_eq_error_iff.2 (.inr ⟨_, _, hbytes, hload, rfl⟩)))
    | noLock h hread hdocument hlock =>
      simp only [h, hread]
      exact lockSnapshot_eq_error_iff.2 (.inr ⟨_, hdocument, hlock, rfl⟩)

end Build

namespace CommandLine

open Act Build

theorem isReportedLock_iff {e : Failure} :
    isReportedLock e = true ↔ (∃ p, e = .disk ⟨.missing, p⟩) ∨
      ∃ fault line column offset, e = .document (.malformed fault line column offset) := by
  cases e with
  | disk f =>
    obtain ⟨cause, p⟩ := f
    simp [isReportedLock]
  | document r => cases r <;> simp [isReportedLock]
  | _ => simp [isReportedLock]

/-- How two paths do not lead to two lockfiles; the first that leads to none counts. -/
inductive Unpaired [Depths] (d : Disk) (here : Location) (host bundled : Path) : Failure → Prop
  | host {e : Failure} (h : Unlocked d here host e) : Unpaired d here host bundled e
  | bundled {s : Snapshot} {e : Failure} (hhost : Locked d here host hostLabel s)
    (h : Unlocked d here bundled e) : Unpaired d here host bundled e

def readPair [Depths] (host bundled : Path) : Act τ σ (Snapshot × Snapshot) := do
  let hostSide ← readLock hostLabel host
  let bundledSide ← readLock bundleLabel bundled
  return (hostSide, bundledSide)

section Pair

variable {host bundled : Path} {w v : World τ σ} {s t : Snapshot} {e : Failure}

theorem readPair_eq_ok_iff :
    (readPair host bundled).perform w = (.ok (s, t), v) ↔
      (Locked w.disk w.here host hostLabel s ∧ Locked w.disk w.here bundled bundleLabel t) ∧
        v = w := by
  rw [readPair, bind_eq_ok_iff]
  constructor
  · rintro ⟨s', u, hhost, hrest⟩
    obtain ⟨hhost, rfl⟩ := readLock_eq_ok_iff.1 hhost
    obtain ⟨t', u', hbundled, hlast⟩ := bind_eq_ok_iff.1 hrest
    obtain ⟨hbundled, rfl⟩ := readLock_eq_ok_iff.1 hbundled
    cases hlast
    exact ⟨⟨hhost, hbundled⟩, rfl⟩
  · rintro ⟨⟨hhost, hbundled⟩, rfl⟩
    refine ⟨s, v, readLock_eq_ok_iff.2 ⟨hhost, rfl⟩, bind_eq_ok_iff.2 ⟨t, v, ?_, rfl⟩⟩
    exact readLock_eq_ok_iff.2 ⟨hbundled, rfl⟩

theorem readPair_eq_error_iff :
    (readPair host bundled).perform w = (.error e, v) ↔
      Unpaired w.disk w.here host bundled e ∧ v = w := by
  rw [readPair, bind_eq_error_iff]
  constructor
  · rintro (hhost | ⟨s', u, hhost, hrest⟩)
    · obtain ⟨hhost, rfl⟩ := readLock_eq_error_iff.1 hhost
      exact ⟨.host hhost, rfl⟩
    · obtain ⟨hhost, rfl⟩ := readLock_eq_ok_iff.1 hhost
      rcases bind_eq_error_iff.1 hrest with hbundled | ⟨t', u', _, hlast⟩
      · obtain ⟨hbundled, rfl⟩ := readLock_eq_error_iff.1 hbundled
        exact ⟨.bundled hhost hbundled, rfl⟩
      · cases hlast
  · rintro ⟨hnone, rfl⟩
    cases hnone with
    | host hhost => exact .inl (readLock_eq_error_iff.2 ⟨hhost, rfl⟩)
    | bundled hhost hbundled =>
      refine .inr ⟨_, v, readLock_eq_ok_iff.2 ⟨hhost, rfl⟩, bind_eq_error_iff.2 (.inl ?_)⟩
      exact readLock_eq_error_iff.2 ⟨hbundled, rfl⟩

end Pair

variable [Display]

theorem exists_failed [Display.Lenient] {e : Failure} (h : isReportedLock e = true)
    (hpath : ∀ p, e = .disk ⟨.missing, p⟩ → Display.Untagged (Text.literal p.text)) :
    ∃ text, failed e = .ok ⟨1, .lines [], some text⟩ := by
  have hmessage : Display.Untagged e.message := by
    rcases isReportedLock_iff.1 h with ⟨p, rfl⟩ | ⟨fault, line, column, offset, rfl⟩
    · exact untagged_missing (hpath p rfl)
    · exact untagged_malformed fault line column offset
  obtain ⟨lines, hlines⟩ := Display.Lenient.shows e.message hmessage
  refine ⟨"\n".intercalate lines, ?_⟩
  rw [failed, drawn, hlines]
  rfl

theorem exit_of_failed {e : Failure} {report : Report} (h : failed e = .ok report) :
    report.exit = 1 := by
  obtain ⟨lines, -, hreport⟩ := Canonical.exists_of_bind_eq_ok h
  cases hreport
  rfl

theorem perform_reporting {α : Type} (reported : Failure → Bool) (act : Act τ σ α)
    (report : α → Except Failure Report) (w : World τ σ) :
    (reporting reported act report).perform w = match act.perform w with
      | (.ok a, v) => (report a, v)
      | (.error e, v) => (if reported e then failed e else .error e, v) := by
  have hlift (x : Except Failure Report) (v : World τ σ) :
      (lift id x : Act τ σ Report).perform v = (x, v) := by
    cases x <;> rfl
  rw [reporting, perform_bind, perform_attempt]
  rcases act.perform w with ⟨e | a, v⟩
  · dsimp only
    split
    · exact hlift _ v
    · rfl
  · exact hlift _ v

variable {host bundled : String} {w v : World τ σ}

theorem perform_externals (host bundled : String) (w : World τ σ) :
    (externals host bundled true).perform w =
      match (readPair (Path.ofString host) (Path.ofString bundled)).perform w with
      | (.ok (s, t), v) =>
        (match decisions s.values t.values with
          | .ok ds => .ok ⟨0, .document (.arr (ds.map decisionValue)), none⟩
          | .error x => .error (.notComparable x), v)
      | (.error e, v) => (if isReportedLock e then failed e else .error e, v) := by
  refine (perform_reporting _ _ _ w).trans ?_
  unfold readPair
  rcases Act.perform _ w with ⟨e | ⟨s, t⟩, v⟩
  · rfl
  · rfl

/-- What comparing two lockfiles ends in. With two lockfiles these are the decisions about their
snapshots, unless there are versions that cannot be compared. Otherwise the failure is told or it
escapes. -/
inductive Ending [Depths] (d : Disk) (here : Location) (host bundled : Path) :
    Except Failure Report → Prop
  | decided {s t : Snapshot} {ds : List Decision} (hhost : Locked d here host hostLabel s)
    (hbundled : Locked d here bundled bundleLabel t) (h : decisions s.values t.values = .ok ds) :
    Ending d here host bundled (.ok ⟨0, .document (.arr (ds.map decisionValue)), none⟩)
  | incomparable {s t : Snapshot} {x : NotComparable} (hhost : Locked d here host hostLabel s)
    (hbundled : Locked d here bundled bundleLabel t) (h : decisions s.values t.values = .error x) :
    Ending d here host bundled (.error (.notComparable x))
  | told {e : Failure} (hnone : Unpaired d here host bundled e) (h : isReportedLock e = true) :
    Ending d here host bundled (failed e)
  | escaped {e : Failure} (hnone : Unpaired d here host bundled e) (h : isReportedLock e = false) :
    Ending d here host bundled (.error e)

/-- The comparison ends in these ways and no others, and changes nothing. -/
theorem externals_eq_iff {result : Except Failure Report} :
    (externals host bundled true).perform w = (result, v) ↔
      Ending w.disk w.here (Path.ofString host) (Path.ofString bundled) result ∧ v = w := by
  rw [perform_externals]
  constructor
  · intro h
    rcases hpair : (readPair (Path.ofString host) (Path.ofString bundled)).perform w
      with ⟨e | ⟨s, t⟩, u⟩
    · rw [hpair] at h
      obtain ⟨hnone, rfl⟩ := readPair_eq_error_iff.1 hpair
      obtain ⟨rfl, rfl⟩ := Prod.mk.inj h
      cases hreported : isReportedLock e with
      | true => exact ⟨.told hnone hreported, rfl⟩
      | false => exact ⟨.escaped hnone hreported, rfl⟩
    · rw [hpair] at h
      obtain ⟨⟨hhost, hbundled⟩, rfl⟩ := readPair_eq_ok_iff.1 hpair
      obtain ⟨rfl, rfl⟩ := Prod.mk.inj h
      cases hdecided : decisions s.values t.values with
      | ok ds => exact ⟨.decided hhost hbundled hdecided, rfl⟩
      | error x => exact ⟨.incomparable hhost hbundled hdecided, rfl⟩
  · rintro ⟨hending, rfl⟩
    cases hending with
    | decided hhost hbundled h | incomparable hhost hbundled h =>
      rw [readPair_eq_ok_iff.2 ⟨⟨hhost, hbundled⟩, rfl⟩]
      simp only [h]
    | told hnone h =>
      rw [readPair_eq_error_iff.2 ⟨hnone, rfl⟩]
      simp only [h, if_true]
    | escaped hnone h =>
      rw [readPair_eq_error_iff.2 ⟨hnone, rfl⟩]
      simp [h]

/-- It ends with zero or one exactly if there are two lockfiles with versions that can be compared,
or if the first file that is none is missing or not JSON and this can be told. -/
theorem externals_ends_iff :
    (∃ report, (externals host bundled true).perform w = (.ok report, w)) ↔
      (∃ s t, Locked w.disk w.here (Path.ofString host) hostLabel s ∧
        Locked w.disk w.here (Path.ofString bundled) bundleLabel t ∧
        Comparable s.values t.values) ∨
      ∃ e report, Unpaired w.disk w.here (Path.ofString host) (Path.ofString bundled) e ∧
        isReportedLock e = true ∧ failed e = .ok report := by
  constructor
  · rintro ⟨report, h⟩
    obtain ⟨hending, -⟩ := externals_eq_iff.1 h
    generalize hresult : (.ok report : Except Failure Report) = result at hending
    cases hending with
    | decided hhost hbundled h =>
      exact .inl ⟨_, _, hhost, hbundled, exists_decisions_iff.1 ⟨_, h⟩⟩
    | told hnone h => exact .inr ⟨_, report, hnone, h, hresult.symm⟩
    | incomparable | escaped => cases hresult
  · rintro (⟨s, t, hhost, hbundled, hcomparable⟩ | ⟨e, report, hnone, hreported, htold⟩)
    · obtain ⟨ds, hds⟩ := exists_decisions_iff.2 hcomparable
      exact ⟨_, externals_eq_iff.2 ⟨.decided hhost hbundled hds, rfl⟩⟩
    · exact ⟨report, externals_eq_iff.2 ⟨htold ▸ .told hnone hreported, rfl⟩⟩

end CommandLine

end ExportBundle
