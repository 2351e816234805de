import ExportBundle.Dependency.Snapshot
import ExportBundle.Proofs.OrderedMap
import ExportBundle.Proofs.Text.Split
import Mathlib.Data.List.Basic
import Mathlib.Data.List.Nodup

/-! What a lockfile says. Of a table of installed paths the entries at the top level that state a
version count, and nothing else in the lockfile does. Main statement: the snapshot holds exactly the
versions of those entries, in their order, and lockfiles of all formats that describe one table of
versions have that table as their snapshot. -/

namespace ExportBundle.Snapshot

open Json (Value)

/-- A name that a package at the top level can have: no part of it is the directory of packages, and
only a scope has a second part behind it. -/
structure IsPackageName (name : String) : Prop where
  ne : name ≠ ""
  direct : installDirectory ∉ Text.pieces '/' name
  parts : name.toList.head? ≠ some '@' ∧ '/' ∉ name.toList ∨
    name.toList.head? = some '@' ∧ name.toList.count '/' = 1

def installPath (name : String) : String := installDirectory ++ "/" ++ name

/-- The lockfile has a table of installed paths, each with one entry. -/
structure IsInstalled (lock : OrderedMap String Value) (table : OrderedMap String Value) : Prop where
  installed : lock.get? "packages" = some (.obj table)
  ne : table ≠ []
  paths : table.keys.Nodup

/-- Entries that say nothing about the packages at the top level: the project itself and its
workspaces, which are not installed, packages inside another one, and links, which state no
version. -/
inductive IsAside : String × Value → Prop
  | outside {path : String} {entry : Value} (h : ∀ name, path ≠ installPath name) :
    IsAside (path, entry)
  | nested (outer inner : String) (entry : Value) :
    IsAside (installPath (outer ++ "/" ++ installPath inner), entry)
  | unversioned (path : String) {entry : Value}
    (h : ∀ members : OrderedMap String Value, entry = .obj members →
      ∀ version, members.get? "version" ≠ some (.str version)) :
    IsAside (path, entry)

/-- A table made from another by putting in and taking out entries that say nothing. A change of
such an entry is both. -/
inductive Edited (table : OrderedMap String Value) : OrderedMap String Value → Prop
  | same : Edited table table
  | insert {front back : List (String × Value)} {e : String × Value}
    (h : Edited table (front ++ back)) (he : IsAside e) : Edited table (front ++ e :: back)
  | remove {front back : List (String × Value)} {e : String × Value}
    (h : Edited table (front ++ e :: back)) (he : IsAside e) : Edited table (front ++ back)

/-! Lockfiles of a table of versions -/

def versionEntry (version : String) : Value := .obj [("version", .str version)]

def installedTable (versions : OrderedMap String String) : String × Value :=
  ("packages", .obj (versions.map fun e => (installPath e.1, versionEntry e.2)))

def nameTable (versions : OrderedMap String String) : String × Value :=
  ("dependencies", .obj (versions.map fun e => (e.1, versionEntry e.2)))

inductive LockFormat where
  | names
  | both
  | paths

def lockOf (versions : OrderedMap String String) : LockFormat → Value
  | .names => .obj [("lockfileVersion", .int 1), nameTable versions]
  | .both => .obj [("lockfileVersion", .int 2), installedTable versions, nameTable versions]
  | .paths => .obj [("lockfileVersion", .int 3), installedTable versions]

/-! The entries that count -/

theorem isTopLevel_iff {name : String} : isTopLevel name = true ↔
    installDirectory ∉ Text.pieces '/' name ∧
      (name.toList.head? ≠ some '@' ∧ '/' ∉ name.toList ∨
        name.toList.head? = some '@' ∧ name.toList.count '/' = 1) := by
  have hlength : (Text.pieces '/' name).length = name.toList.count '/' + 1 := by
    rw [Text.pieces, List.length_map, Text.length_split]
  simp only [isTopLevel, hlength, Bool.and_eq_true, Bool.not_eq_true', List.contains_eq_mem,
    decide_eq_false_iff_not]
  by_cases hscope : name.toList.head? = some '@'
  · simp [hscope]
  · simp [hscope, List.count_eq_zero]

theorem isPackageName_iff {name : String} :
    IsPackageName name ↔ name ≠ "" ∧ isTopLevel name = true := by
  rw [isTopLevel_iff]
  exact ⟨fun h => ⟨h.ne, h.direct, h.parts⟩, fun h => ⟨h.1, h.2.1, h.2.2⟩⟩

instance (name : String) : Decidable (IsPackageName name) :=
  decidable_of_iff _ isPackageName_iff.symm

theorem installPath_injective {name name' : String} (h : installPath name = installPath name') :
    name = name' := by
  have hchars := congrArg String.toList h
  simp only [installPath, String.toList_append, List.append_cancel_left_eq] at hchars
  exact String.toList_injective hchars

theorem topLevelName?_eq_some {path name : String} :
    topLevelName? path = some name ↔ path = installPath name ∧ isTopLevel name = true := by
  have hpath (name : String) :
      path = installPath name ↔ path.toList = (installDirectory ++ "/").toList ++ name.toList := by
    rw [installPath, ← String.toList_inj, String.toList_append]
  unfold topLevelName?
  dsimp only
  split
  · rename_i hroot
    obtain ⟨rest, hrest⟩ := List.isPrefixOf_iff_prefix.1 hroot
    rw [hpath, ← hrest, List.drop_left, List.append_cancel_left_eq]
    constructor
    · intro h
      split at h
      · rename_i htop
        obtain rfl := Option.some.inj h
        exact ⟨by rw [String.toList_ofList], htop⟩
      · cases h
    · rintro ⟨rfl, htop⟩
      rw [String.ofList_toList, if_pos htop]
  · rename_i hroot
    refine ⟨nofun, fun h => absurd ?_ hroot⟩
    rw [(hpath name).1 h.1]
    exact List.isPrefixOf_iff_prefix.2 (List.prefix_append _ _)

theorem version?_eq_some {entry : Value} {version : String} : version? entry = some version ↔
    ∃ members : OrderedMap String Value,
      entry = .obj members ∧ members.get? "version" = some (.str version) := by
  cases entry with
  | obj members =>
    cases hversion : OrderedMap.get? members "version" with
    | none => simp [version?, Value.members?, hversion]
    | some value => cases value <;> simp [version?, Value.members?, Value.text?, hversion]
  | _ => simp [version?, Value.members?]

/-- The name and the version that an entry of a table of paths contributes. -/
def installed? (e : String × Value) : Option (String × String) := do
  let name ← topLevelName? e.1
  if name.isEmpty then none
  let version ← version? e.2
  return (name, version)

theorem ofInstalled_eq (table : OrderedMap String Value) :
    ofInstalled table = OrderedMap.ofEntries (table.filterMap installed?) := rfl

theorem installed?_eq_some {path : String} {entry : Value} {name version : String} :
    installed? (path, entry) = some (name, version) ↔
      path = installPath name ∧ IsPackageName name ∧ version? entry = some version := by
  rw [isPackageName_iff]
  constructor
  · intro h
    obtain ⟨name', hname, h⟩ := Option.bind_eq_some_iff.1 h
    obtain ⟨rfl, htop⟩ := topLevelName?_eq_some.1 hname
    by_cases hempty : name'.isEmpty = true
    · simp [hempty] at h
    · rw [if_neg hempty] at h
      obtain ⟨version', hversion, h⟩ := Option.bind_eq_some_iff.1 h
      cases h
      exact ⟨rfl, ⟨by simpa using hempty, htop⟩, hversion⟩
  · rintro ⟨rfl, ⟨hne, htop⟩, hversion⟩
    have hname := topLevelName?_eq_some.2 ⟨rfl, htop⟩
    simp [installed?, hname, hne, hversion]

theorem installed?_eq_none {e : String × Value} (h : IsAside e) : installed? e = none := by
  rw [Option.eq_none_iff_forall_ne_some]
  rintro ⟨name, version⟩ hsome
  obtain ⟨path, entry⟩ := e
  obtain ⟨hpath, hname, hversion⟩ := installed?_eq_some.1 hsome
  cases h with
  | outside h => exact h name hpath
  | nested outer inner =>
    obtain rfl := installPath_injective hpath
    refine hname.direct ?_
    have hparts : (outer ++ "/" ++ installPath inner).toList =
        outer.toList ++ '/' :: (installDirectory.toList ++ '/' :: inner.toList) := by
      simp [installPath]
    have hdirectory : Text.split '/' installDirectory.toList = [installDirectory.toList] := by
      decide
    rw [Text.pieces, hparts, Text.split_append_cons, Text.split_append_cons, hdirectory]
    simp
  | unversioned _ h =>
    obtain ⟨members, hentry, hmember⟩ := version?_eq_some.1 hversion
    exact h members hentry version hmember

theorem Edited.filterMap_eq {table table' : OrderedMap String Value} (h : Edited table table') :
    table'.filterMap installed? = table.filterMap installed? := by
  induction h with
  | same => rfl
  | insert _ he ih =>
    rw [← ih, List.filterMap_append, List.filterMap_append, List.filterMap_cons,
      installed?_eq_none he]
  | remove _ he ih =>
    rw [← ih, List.filterMap_append, List.filterMap_append, List.filterMap_cons,
      installed?_eq_none he]

/-! Reading -/

theorem ofLock_installed {lock table : OrderedMap String Value}
    (hinstalled : lock.get? "packages" = some (.obj table)) (hne : table ≠ []) (label : String) :
    ofLock label (.obj lock) = .ok ⟨label, ofInstalled table⟩ := by
  obtain ⟨e, r, rfl⟩ := List.exists_cons_of_ne_nil hne
  simp only [ofLock, Value.requireMembers, bind, Except.bind, hinstalled]
  rfl

theorem sublist_keys_filterMap (table : OrderedMap String Value) :
    ((OrderedMap.keys (table.filterMap installed?)).map installPath).Sublist table.keys := by
  induction table with
  | nil => exact .slnil
  | cons e r ih =>
    obtain ⟨path, entry⟩ := e
    cases h : installed? (path, entry) with
    | none =>
      rw [List.filterMap_cons_none h]
      exact ih.cons path
    | some row =>
      obtain ⟨name, version⟩ := row
      obtain ⟨rfl, _⟩ := installed?_eq_some.1 h
      rw [List.filterMap_cons_some h]
      exact ih.cons_cons (installPath name)

section Table

variable {table : OrderedMap String Value} (hpaths : table.keys.Nodup)

include hpaths

theorem nodup_keys_filterMap : (OrderedMap.keys (table.filterMap installed?)).Nodup :=
  List.Nodup.of_map installPath ((sublist_keys_filterMap table).nodup hpaths)

theorem ofInstalled_eq_filterMap : ofInstalled table = table.filterMap installed? :=
  OrderedMap.ofEntries_of_nodup (nodup_keys_filterMap hpaths)

theorem get?_ofInstalled {name version : String} :
    (ofInstalled table).get? name = some version ↔
      IsPackageName name ∧ ∃ entry : OrderedMap String Value,
        table.get? (installPath name) = some (.obj entry) ∧
          entry.get? "version" = some (.str version) := by
  rw [ofInstalled_eq_filterMap hpaths, OrderedMap.get?_eq_some_iff (nodup_keys_filterMap hpaths),
    List.mem_filterMap]
  constructor
  · rintro ⟨⟨path, value⟩, hmem, h⟩
    obtain ⟨rfl, hname, hversion⟩ := installed?_eq_some.1 h
    obtain ⟨entry, rfl, hmember⟩ := version?_eq_some.1 hversion
    exact ⟨hname, entry, (OrderedMap.get?_eq_some_iff hpaths).2 hmem, hmember⟩
  · rintro ⟨hname, entry, hentry, hmember⟩
    refine ⟨(installPath name, .obj entry), (OrderedMap.get?_eq_some_iff hpaths).1 hentry, ?_⟩
    exact installed?_eq_some.2 ⟨rfl, hname, version?_eq_some.2 ⟨entry, rfl, hmember⟩⟩

end Table

theorem version?_versionEntry (version : String) : version? (versionEntry version) = some version :=
  rfl

theorem ofNamed_nameTable {versions : OrderedMap String String} (hnames : versions.keys.Nodup) :
    ofNamed (versions.map fun e => (e.1, versionEntry e.2)) = versions := by
  rw [ofNamed, List.filterMap_map]
  change OrderedMap.ofEntries (versions.filterMap some) = versions
  rw [List.filterMap_some, OrderedMap.ofEntries_of_nodup hnames]

theorem ofInstalled_installedTable {versions : OrderedMap String String}
    (hnames : versions.keys.Nodup) (h : ∀ name ∈ versions.keys, IsPackageName name) :
    ofInstalled (versions.map fun e => (installPath e.1, versionEntry e.2)) = versions := by
  have hentries : versions.filterMap (installed? ∘ fun e => (installPath e.1, versionEntry e.2)) =
      versions := by
    rw [List.filterMap_congr (g := some), List.filterMap_some]
    intro e he
    exact installed?_eq_some.2 ⟨rfl, h e.1 (List.mem_map.2 ⟨e, he, rfl⟩), version?_versionEntry e.2⟩
  rw [ofInstalled_eq, List.filterMap_map, hentries, OrderedMap.ofEntries_of_nodup hnames]

theorem ofLock_named {lock versions : OrderedMap String Value}
    (hinstalled : lock.get? "packages" = none ∨ lock.get? "packages" = some (.obj []))
    (hnamed : lock.get? "dependencies" = some (.obj versions)) (label : String) :
    ofLock label (.obj lock) = .ok ⟨label, ofNamed versions⟩ := by
  have htable : namedTable lock = .ok versions := by
    cases versions <;> simp [namedTable, hnamed, Value.isVoid, Value.requireMembers]
  rcases hinstalled with h | h <;>
    simp [ofLock, Value.requireMembers, bind, Except.bind, h, htable] <;> rfl

theorem ofLock_lockOf {versions : OrderedMap String String} (hnames : versions.keys.Nodup)
    (h : ∀ name ∈ versions.keys, IsPackageName name) (format : LockFormat) (label : String) :
    ofLock label (lockOf versions format) = .ok ⟨label, versions⟩ := by
  by_cases hempty : versions = []
  · subst hempty
    cases format <;> rfl
  · have hne : versions.map (fun e => (installPath e.1, versionEntry e.2)) ≠ [] := by
      simpa using hempty
    cases format with
    | names => rw [lockOf, ofLock_named (.inl rfl) rfl, ofNamed_nameTable hnames]
    | both => rw [lockOf, ofLock_installed rfl hne, ofInstalled_installedTable hnames h]
    | paths => rw [lockOf, ofLock_installed rfl hne, ofInstalled_installedTable hnames h]

/-- The snapshot of a lockfile with a table of installed paths has a name with a version if and only
if the name is that of a package at the top level and its entry states the version; the names stand
in the order of the table. Neither other entries nor the rest of the lockfile matter. A table of
versions is the snapshot of its lockfile in every format. -/
theorem snapshot_of_lock (label : String) :
    (∀ lock table, IsInstalled lock table → ∃ versions,
      ofLock label (.obj lock) = .ok ⟨label, versions⟩ ∧
      (∀ name version, versions.get? name = some version ↔
        IsPackageName name ∧ ∃ entry : OrderedMap String Value,
          table.get? (installPath name) = some (.obj entry) ∧
            entry.get? "version" = some (.str version)) ∧
      versions.keys.Nodup ∧ (versions.keys.map installPath).Sublist table.keys) ∧
    (∀ lock lock' table table', IsInstalled lock table → IsInstalled lock' table' →
      Edited table table' → ofLock label (.obj lock') = ofLock label (.obj lock)) ∧
    (∀ versions : OrderedMap String String, versions.keys.Nodup →
      (∀ name ∈ versions.keys, IsPackageName name) →
      ∀ format, ofLock label (lockOf versions format) = .ok ⟨label, versions⟩) := by
  refine ⟨fun lock table h => ?_, fun lock lock' table table' h h' hedited => ?_,
    fun versions hnames h format => ofLock_lockOf hnames h format label⟩
  · refine ⟨ofInstalled table, ofLock_installed h.installed h.ne label,
      fun name version => get?_ofInstalled h.paths, ?_, ?_⟩
    · rw [ofInstalled_eq_filterMap h.paths]
      exact nodup_keys_filterMap h.paths
    · rw [ofInstalled_eq_filterMap h.paths]
      exact sublist_keys_filterMap table
  · rw [ofLock_installed h.installed h.ne, ofLock_installed h'.installed h'.ne, ofInstalled_eq,
      ofInstalled_eq, hedited.filterMap_eq]

/-- A copy inside a scoped package is not in the snapshot, whether it is listed or not. -/
theorem snapshot_of_lock_nested :
    let versions := [("a", "1.2.0"), ("@s/b", "2.0.0")]
    let plain := versions.map fun e => (installPath e.1, versionEntry e.2)
    let table := [(installPath "a", versionEntry "1.2.0"),
      (installPath "@s/b/node_modules/a", versionEntry "1.0.0"),
      (installPath "@s/b", versionEntry "2.0.0")]
    IsInstalled [("packages", .obj table)] table ∧
      IsInstalled [("lockfileVersion", .int 3), installedTable versions] plain ∧
      Edited plain table ∧ (∀ name ∈ OrderedMap.keys versions, IsPackageName name) ∧
      ofLock "sub" (.obj [("packages", .obj table)]) = .ok ⟨"sub", versions⟩ := by
  intro versions plain table
  have hpaths : (OrderedMap.keys table).Nodup := by decide
  have hplain : (OrderedMap.keys plain).Nodup := by decide
  have hnames : (OrderedMap.keys versions).Nodup := by decide
  have hversions : ∀ name ∈ OrderedMap.keys versions, IsPackageName name := by decide
  have htable : IsInstalled [("packages", .obj table)] table := ⟨rfl, by simp [table], hpaths⟩
  have hlock : IsInstalled [("lockfileVersion", .int 3), installedTable versions] plain :=
    ⟨rfl, by simp [plain, versions], hplain⟩
  have hedited : Edited plain ([(installPath "a", versionEntry "1.2.0")] ++
      (installPath ("@s/b" ++ "/" ++ installPath "a"), versionEntry "1.0.0") ::
        [(installPath "@s/b", versionEntry "2.0.0")]) :=
    .insert .same (.nested "@s/b" "a" (versionEntry "1.0.0"))
  obtain ⟨_, hsame, hread⟩ := snapshot_of_lock "sub"
  refine ⟨htable, hlock, hedited, hversions, ?_⟩
  rw [hsame _ _ plain table hlock htable hedited]
  exact hread versions hnames hversions .paths

end ExportBundle.Snapshot
