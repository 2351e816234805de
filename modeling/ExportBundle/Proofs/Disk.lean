import ExportBundle.Disk
import ExportBundle.Proofs.OrderedMap
import ExportBundle.Proofs.Text.Split
import Mathlib.Data.List.Infix
import Mathlib.Data.String.Basic

/-! Where a path leads on a disk. A path that can be walked leads to its place, which depends on
its names alone; the disk has to have a directory at each stop on the way. Reading, writing and
making directories are described by what is at that place, and two disks that agree along the trail
of a path answer every question about it in the same way. -/

namespace ExportBundle

namespace Disk

theorem lookup_nil (d : Disk) : d.lookup [] = some .directory := rfl

theorem lookup_put (d : Disk) (l m : Location) (e : Entry) (hm : m ≠ []) :
    (d.put l e).lookup m = if l = m then some e else d.lookup m := by
  have hempty : m.isEmpty = false := List.isEmpty_eq_false_iff.2 hm
  simp only [lookup, put, hempty, Bool.false_eq_true, if_false, OrderedMap.get?_put, beq_iff_eq]

theorem lookup_put_self {l : Location} (d : Disk) (e : Entry) (hl : l ≠ []) :
    (d.put l e).lookup l = some e := by
  rw [lookup_put d l l e hl, if_pos rfl]

theorem lookup_put_ne {l m : Location} (d : Disk) (e : Entry) (h : l ≠ m) :
    (d.put l e).lookup m = d.lookup m := by
  cases m with
  | nil => rfl
  | cons s r => rw [lookup_put d l (s :: r) e (by simp), if_neg h]

theorem lookup_erase_of_not_prefix {l m : Location} (d : Disk) (h : ¬ l <+: m) :
    (d.erase l).lookup m = d.lookup m := by
  cases m with
  | nil => rfl
  | cons s r =>
    have hl : l.isPrefixOf (s :: r) = false := by
      rw [Bool.eq_false_iff, ne_eq, List.isPrefixOf_iff_prefix]
      exact h
    exact OrderedMap.get?_filter (fun m => !l.isPrefixOf m) (by simp [hl]) d.entries

theorem lookup_erase_of_prefix {l m : Location} (d : Disk) (h : l <+: m) (hl : l ≠ []) :
    (d.erase l).lookup m = none := by
  cases m with
  | nil => exact absurd (List.prefix_nil.1 h) hl
  | cons s r =>
    have hl : l.isPrefixOf (s :: r) = true := List.isPrefixOf_iff_prefix.2 h
    exact OrderedMap.get?_filter_eq_none (fun m => !l.isPrefixOf m) (by simp [hl]) d.entries

def follow (base : Location) (s : String) : Location :=
  if s = ".." then base.dropLast else base ++ [s]

/-- The location that the segments lead to when all on the way is there. -/
def aim (base : Location) (segments : List String) : Location := segments.foldl follow base

def stops (base : Location) : List String → List Location
  | [] => []
  | s :: r => base :: stops (follow base s) r

def Walkable (s : String) : Prop := s = ".." ∨ s.utf8ByteSize ≤ nameLimit

theorem walk_cons (d : Disk) {base : Location} {s : String} (r : List String)
    (hbase : d.lookup base = some .directory) (hs : Walkable s) :
    d.walk base (s :: r) = d.walk (follow base s) r := by
  rw [walk, hbase]
  by_cases hup : s = ".."
  · simp only [hup, if_true, follow]
  · have hlong : ¬ nameLimit < s.utf8ByteSize := by
      rcases hs with h | h
      · exact absurd h hup
      · omega
    simp only [hup, hlong, if_false, follow]

theorem walk_eq_ok_iff (d : Disk) (base : Location) (segments : List String) (l : Location) :
    d.walk base segments = .ok l ↔
      l = aim base segments ∧ (∀ m ∈ stops base segments, d.lookup m = some .directory) ∧
        ∀ s ∈ segments, Walkable s := by
  induction segments generalizing base with
  | nil => simp [walk, aim, stops, eq_comm]
  | cons s r ih =>
    constructor
    · intro h
      have hbase : d.lookup base = some .directory := by
        rw [walk] at h
        split at h
        · cases h
        · cases h
        · assumption
      have hs : Walkable s := by
        rw [walk, hbase] at h
        by_cases hup : s = ".."
        · exact .inl hup
        · simp only [hup, if_false] at h
          split at h
          · cases h
          · exact .inr (by omega)
      rw [walk_cons d r hbase hs, ih] at h
      obtain ⟨hl, hstops, hr⟩ := h
      exact ⟨hl, List.forall_mem_cons.2 ⟨hbase, hstops⟩, List.forall_mem_cons.2 ⟨hs, hr⟩⟩
    · rintro ⟨hl, hstops, hr⟩
      obtain ⟨hbase, hstops⟩ := List.forall_mem_cons.1 hstops
      obtain ⟨hs, hr⟩ := List.forall_mem_cons.1 hr
      rw [walk_cons d r hbase hs, ih]
      exact ⟨hl, hstops, hr⟩

theorem walk_congr {d d' : Disk} {base : Location} {segments : List String}
    (h : ∀ m ∈ stops base segments, d'.lookup m = d.lookup m) :
    d'.walk base segments = d.walk base segments := by
  induction segments generalizing base with
  | nil => rfl
  | cons s r ih =>
    obtain ⟨hbase, hstops⟩ := List.forall_mem_cons.1 h
    rw [walk, walk, hbase]
    have hup : d'.walk (follow base s) r = d.walk (follow base s) r := ih hstops
    unfold follow at hup
    split
    · rfl
    · rfl
    · by_cases hs : s = ".."
      · simp only [hs, if_true] at hup ⊢
        exact hup
      · simp only [hs, if_false] at hup ⊢
        rw [hup]

theorem stops_append (base : Location) (a b : List String) :
    stops base (a ++ b) = stops base a ++ stops (aim base a) b := by
  induction a generalizing base with
  | nil => rfl
  | cons s r ih => simp [stops, aim, ih]

theorem aim_append (base : Location) (a b : List String) :
    aim base (a ++ b) = aim (aim base a) b := by
  simp [aim]

theorem aim_of_down {base : Location} {segments : List String} (h : ".." ∉ segments) :
    aim base segments = base ++ segments := by
  induction segments generalizing base with
  | nil => simp [aim]
  | cons s r ih =>
    have hs : s ≠ ".." := by
      rintro rfl
      simp at h
    have hr : ".." ∉ r := fun hm => h (List.mem_cons_of_mem s hm)
    have hfollow : follow base s = base ++ [s] := if_neg hs
    have hnext : aim (base ++ [s]) r = base ++ [s] ++ r := ih hr
    simp only [aim, List.foldl_cons, hfollow] at hnext ⊢
    rw [hnext, List.append_assoc, List.singleton_append]

end Disk

namespace Path

def start (here : Location) (p : Path) : Location := if p.isAbsolute then [] else here

def place (here : Location) (p : Path) : Location := Disk.aim (p.start here) p.segments

/-- The places that have to be directories for a path to be walked. -/
def way (here : Location) (p : Path) : List Location := Disk.stops (p.start here) p.segments

def trail (here : Location) (p : Path) : List Location := p.way here ++ [p.place here]

theorem way_subset_trail {here : Location} {p : Path} : p.way here ⊆ p.trail here :=
  List.subset_append_left _ _

theorem place_mem_trail {here : Location} {p : Path} : p.place here ∈ p.trail here := by
  simp [trail]

theorem place_down (here : Location) {segments : List String} (h : ".." ∉ segments) :
    Path.place here ⟨0, segments⟩ = here ++ segments := Disk.aim_of_down h

theorem place_mem_trail_of_prefix {here : Location} {p q : Path} (hs : q.slashes = p.slashes)
    (hinit : q.segments <+: p.segments) : q.place here ∈ p.trail here := by
  obtain ⟨rest, hrest⟩ := hinit
  have hstart : q.start here = p.start here := by rw [start, start, isAbsolute, isAbsolute, hs]
  have hplace : q.place here = Disk.aim (p.start here) q.segments := by rw [place, hstart]
  rw [hplace, trail, way, place, ← hrest, Disk.stops_append, Disk.aim_append]
  cases rest with
  | nil => simp [Disk.aim]
  | cons s r => simp [Disk.stops]

theorem way_append (here : Location) (p : Path) (name : String) :
    Path.way here ⟨p.slashes, p.segments ++ [name]⟩ = p.trail here := by
  have hstart : Path.start here ⟨p.slashes, p.segments ++ [name]⟩ = p.start here := rfl
  rw [way, hstart, Disk.stops_append]
  rfl

theorem place_append (here : Location) (p : Path) {name : String} (h : name ≠ "..") :
    Path.place here ⟨p.slashes, p.segments ++ [name]⟩ = p.place here ++ [name] := by
  have hstart : Path.start here ⟨p.slashes, p.segments ++ [name]⟩ = p.start here := rfl
  have hfollow : Disk.follow (Disk.aim (p.start here) p.segments) name =
      Disk.aim (p.start here) p.segments ++ [name] := if_neg h
  rw [place, hstart, Disk.aim_append, place, ← hfollow]
  rfl

theorem parent_eq_self_iff {p : Path} : p.parent = p ↔ p.segments = [] := by
  obtain ⟨slashes, segments⟩ := p
  cases segments with
  | nil => simp [parent]
  | cons s r =>
    have hne : (s :: r).dropLast ≠ s :: r := by
      intro h
      have hlength := congrArg List.length h
      rw [List.length_dropLast, List.length_cons] at hlength
      omega
    simp [parent, hne]

def objection? (p : Path) : Option Disk.Cause :=
  if let some u := p.unencodable? then some (.unencodable u)
  else if p.hasNull then some .nullCharacter
  else if p.text.utf8ByteSize > Disk.pathLimit then some .nameTooLong
  else none

theorem exists_text_append (p : Path) : ∃ front : List Char, ∀ name : String,
    (text ⟨p.slashes, p.segments ++ [name]⟩).toList = front ++ name.toList := by
  obtain ⟨front, hfront⟩ := Text.exists_intercalate_append ['/'] (p.segments.map String.toList)
  refine ⟨List.replicate p.slashes '/' ++ front, fun name => ?_⟩
  simp [text, String.toList_intercalate, hfront]

theorem size_append_le (p : Path) {name name' : String}
    (h : name'.utf8ByteSize ≤ name.utf8ByteSize) :
    (text ⟨p.slashes, p.segments ++ [name']⟩).utf8ByteSize ≤
      (text ⟨p.slashes, p.segments ++ [name]⟩).utf8ByteSize := by
  obtain ⟨front, hfront⟩ := exists_text_append p
  rw [← String.utf8Len_toList, ← String.utf8Len_toList] at h ⊢
  rw [hfront, hfront, String.utf8Len_append, String.utf8Len_append]
  omega

theorem objection?_eq_none_iff {p : Path} :
    p.objection? = none ↔ p.unencodable? = none ∧ p.hasNull = false ∧
      p.text.utf8ByteSize ≤ Disk.pathLimit := by
  unfold objection?
  cases p.unencodable? with
  | some u => simp
  | none =>
    cases hnull : p.hasNull with
    | true => simp
    | false => simp

end Path

namespace Disk

variable {d d' e : Disk} {here : Location} {p : Path}

theorem locate_eq (d : Disk) (here : Location) (p : Path) :
    d.locate here p = match p.objection? with
      | some cause => .error cause
      | none => d.walk (p.start here) p.segments := by
  unfold locate Path.objection? Path.start
  cases p.unencodable? with
  | some u => rfl
  | none =>
    by_cases hnull : p.hasNull
    · simp [hnull]
    · by_cases hlong : p.text.utf8ByteSize > pathLimit <;> simp [hnull, hlong]

theorem locate_eq_ok_iff {l : Location} :
    d.locate here p = .ok l ↔
      l = p.place here ∧ (∀ m ∈ p.way here, d.lookup m = some .directory) ∧
        p.objection? = none ∧ ∀ s ∈ p.segments, Walkable s := by
  rw [locate_eq]
  cases p.objection? with
  | some cause => simp
  | none => simp [walk_eq_ok_iff, Path.place, Path.way]

theorem locate_congr (h : ∀ m ∈ p.way here, d'.lookup m = d.lookup m) :
    d'.locate here p = d.locate here p := by
  rw [locate_eq, locate_eq, walk_congr h]

def Leads (d : Disk) (here : Location) (p : Path) : Prop := d.locate here p = .ok (p.place here)

theorem leads_iff :
    d.Leads here p ↔ (∀ m ∈ p.way here, d.lookup m = some .directory) ∧
      p.objection? = none ∧ ∀ s ∈ p.segments, Walkable s := by
  simp [Leads, locate_eq_ok_iff]

theorem leads_of_locate {l : Location} (h : d.locate here p = .ok l) :
    d.Leads here p ∧ l = p.place here := by
  obtain ⟨rfl, hway⟩ := locate_eq_ok_iff.1 h
  exact ⟨h, rfl⟩

theorem Leads.transfer (h : d.Leads here p)
    (hway : ∀ m ∈ p.way here, d.lookup m = some .directory → d'.lookup m = some .directory) :
    d'.Leads here p := by
  obtain ⟨hdir, hrest⟩ := leads_iff.1 h
  exact leads_iff.2 ⟨fun m hm => hway m hm (hdir m hm), hrest⟩

theorem find?_eq_some_iff {entry : Entry} :
    d.find? here p = .ok (some entry) ↔
      d.Leads here p ∧ d.lookup (p.place here) = some entry := by
  unfold find?
  constructor
  · intro h
    split at h
    · rename_i l hl
      obtain ⟨hleads, rfl⟩ := leads_of_locate hl
      simp only [Except.ok.injEq] at h
      exact ⟨hleads, h⟩
    · cases h
    · cases h
  · rintro ⟨hleads, hentry⟩
    rw [Leads] at hleads
    rw [hleads]
    simp [hentry]

theorem isFile_eq_true_iff :
    d.isFile here p = .ok true ↔
      d.Leads here p ∧ ∃ bytes, d.lookup (p.place here) = some (.file bytes) := by
  have hfind : d.isFile here p = .ok true ↔ ∃ bytes, d.find? here p = .ok (some (.file bytes)) := by
    unfold isFile
    rcases d.find? here p with f | _ | _ | bytes <;> simp [bind, Except.bind, pure, Except.pure]
  simp [hfind, find?_eq_some_iff]

theorem isDirectory_eq_true_iff :
    d.isDirectory here p = .ok true ↔
      d.Leads here p ∧ d.lookup (p.place here) = some .directory := by
  rw [← find?_eq_some_iff]
  unfold isDirectory
  rcases d.find? here p with f | _ | _ | bytes <;> simp [bind, Except.bind, pure, Except.pure]

theorem read_eq_ok_iff {bytes : List UInt8} :
    d.read here p = .ok bytes ↔
      d.Leads here p ∧ d.lookup (p.place here) = some (.file bytes) := by
  unfold read
  constructor
  · intro h
    split at h
    · cases h
    · rename_i l hl
      obtain ⟨hleads, rfl⟩ := leads_of_locate hl
      split at h
      · cases h
      · cases h
      · rename_i hfile
        cases h
        exact ⟨hleads, hfile⟩
  · rintro ⟨hleads, hfile⟩
    rw [Leads] at hleads
    simp [hleads, hfile]

theorem isFile_of_read {bytes : List UInt8} (h : d.read here p = .ok bytes) :
    d.isFile here p = .ok true := by
  obtain ⟨hleads, hfile⟩ := read_eq_ok_iff.1 h
  exact isFile_eq_true_iff.2 ⟨hleads, bytes, hfile⟩

/-- A file can be made or written over at a place. -/
def Takes (d : Disk) (l : Location) : Prop :=
  (∃ bytes, d.lookup l = some (.file bytes)) ∨
    d.lookup l = none ∧ d.lookup l.dropLast = some .directory

theorem write_eq_ok_iff {bytes : List UInt8} :
    d.write here p bytes = .ok e ↔
      d.Leads here p ∧ d.Takes (p.place here) ∧ e = d.put (p.place here) (.file bytes) := by
  unfold write Takes
  constructor
  · intro h
    split at h
    · cases h
    · rename_i l hl
      obtain ⟨hleads, rfl⟩ := leads_of_locate hl
      split at h
      · cases h
      · rename_i old hold
        cases h
        exact ⟨hleads, .inl ⟨old, hold⟩, rfl⟩
      · rename_i hnone
        split at h
        · rename_i hparent
          cases h
          exact ⟨hleads, .inr ⟨hnone, hparent⟩, rfl⟩
        · cases h
        · cases h
  · rintro ⟨hleads, htakes, rfl⟩
    rw [Leads] at hleads
    rcases htakes with ⟨old, hold⟩ | ⟨hnone, hparent⟩
    · simp [hleads, hold]
    · simp [hleads, hnone, hparent]

theorem makeDirectory_eq_ok_iff :
    d.makeDirectory here p = .ok e ↔
      d.Leads here p ∧ d.lookup (p.place here) = none ∧
        d.lookup (p.place here).dropLast = some .directory ∧
        e = d.put (p.place here) .directory := by
  unfold makeDirectory
  constructor
  · intro h
    split at h
    · cases h
    · rename_i l hl
      obtain ⟨hleads, rfl⟩ := leads_of_locate hl
      split at h
      · cases h
      · rename_i hnone
        split at h
        · rename_i hparent
          cases h
          exact ⟨hleads, hnone, hparent, rfl⟩
        · cases h
        · cases h
  · rintro ⟨hleads, hnone, hparent, rfl⟩
    rw [Leads] at hleads
    simp [hleads, hnone, hparent]

theorem find?_congr (h : ∀ m ∈ p.trail here, d'.lookup m = d.lookup m) :
    d'.find? here p = d.find? here p := by
  have hlocate := locate_congr fun m hm => h m (Path.way_subset_trail hm)
  unfold find?
  rw [hlocate]
  split
  · rename_i l hl
    obtain ⟨_, rfl⟩ := leads_of_locate hl
    rw [h _ Path.place_mem_trail]
  · rfl
  · rfl

theorem isFile_congr (h : ∀ m ∈ p.trail here, d'.lookup m = d.lookup m) :
    d'.isFile here p = d.isFile here p := by
  rw [isFile, isFile, find?_congr h]

theorem isDirectory_congr (h : ∀ m ∈ p.trail here, d'.lookup m = d.lookup m) :
    d'.isDirectory here p = d.isDirectory here p := by
  rw [isDirectory, isDirectory, find?_congr h]

theorem read_congr (h : ∀ m ∈ p.trail here, d'.lookup m = d.lookup m) :
    d'.read here p = d.read here p := by
  have hlocate := locate_congr fun m hm => h m (Path.way_subset_trail hm)
  unfold read
  rw [hlocate]
  split
  · rfl
  · rename_i l hl
    obtain ⟨_, rfl⟩ := leads_of_locate hl
    rw [h _ Path.place_mem_trail]

theorem Takes.ne_of_directory {l m : Location} (h : d.Takes l) (hm : d.lookup m = some .directory) :
    l ≠ m := by
  rintro rfl
  rcases h with ⟨bytes, hfile⟩ | ⟨hnone, _⟩
  · rw [hm] at hfile
    cases hfile
  · rw [hm] at hnone
    cases hnone

theorem Leads.put {l : Location} {entry : Entry} (h : d.Leads here p)
    (hl : d.lookup l ≠ some .directory) : (d.put l entry).Leads here p := by
  refine h.transfer fun m _ hm => ?_
  have hne : l ≠ m := by
    rintro rfl
    exact hl hm
  rw [lookup_put_ne d entry hne, hm]

theorem Takes.ne_directory {l : Location} (h : d.Takes l) : d.lookup l ≠ some .directory := by
  intro hdir
  exact h.ne_of_directory hdir rfl

theorem lookup_trail_of_isDirectory (h : d.isDirectory here p = .ok true) :
    ∀ m ∈ p.trail here, d.lookup m = some .directory := by
  obtain ⟨hleads, hthere⟩ := isDirectory_eq_true_iff.1 h
  intro m hm
  rcases List.mem_append.1 hm with hway | hplace
  · exact (leads_iff.1 hleads).1 m hway
  · rwa [List.mem_singleton.1 hplace]

theorem leads_of_isDirectory {name : String} (hdir : d.isDirectory here p = .ok true)
    (hpath : Path.objection? ⟨p.slashes, p.segments ++ [name]⟩ = none) (hname : Walkable name) :
    d.Leads here ⟨p.slashes, p.segments ++ [name]⟩ := by
  obtain ⟨-, -, hwalkable⟩ := leads_iff.1 (isDirectory_eq_true_iff.1 hdir).1
  refine leads_iff.2 ⟨?_, hpath, fun s hs => ?_⟩
  · rw [Path.way_append]
    exact lookup_trail_of_isDirectory hdir
  · rcases List.mem_append.1 hs with hs | hs
    · exact hwalkable s hs
    · rwa [List.mem_singleton.1 hs]

theorem lookup_of_write_eq_error {name : String} {bytes : List UInt8} {f : Fault}
    (hdir : d.isDirectory here p = .ok true)
    (hpath : Path.objection? ⟨p.slashes, p.segments ++ [name]⟩ = none) (hname : Walkable name)
    (hup : name ≠ "..")
    (h : d.write here ⟨p.slashes, p.segments ++ [name]⟩ bytes = .error f) :
    d.lookup (p.place here ++ [name]) = some .directory := by
  have hrefused : ¬ d.Takes (p.place here ++ [name]) := by
    intro htakes
    rw [← Path.place_append here p hup] at htakes
    rw [write_eq_ok_iff.2 ⟨leads_of_isDirectory hdir hpath hname, htakes, rfl⟩] at h
    cases h
  cases hentry : d.lookup (p.place here ++ [name]) with
  | none =>
    refine absurd (.inr ⟨hentry, ?_⟩) hrefused
    rw [List.dropLast_concat]
    exact (isDirectory_eq_true_iff.1 hdir).2
  | some entry =>
    cases entry with
    | directory => rfl
    | file bytes => exact absurd (.inl ⟨bytes, hentry⟩) hrefused

theorem read_of_write {bytes : List UInt8} (h : d.write here p bytes = .ok e) :
    e.read here p = .ok bytes := by
  obtain ⟨hleads, htakes, rfl⟩ := write_eq_ok_iff.1 h
  have hplace : p.place here ≠ [] := htakes.ne_of_directory (lookup_nil d)
  exact read_eq_ok_iff.2 ⟨hleads.put htakes.ne_directory, lookup_put_self d _ hplace⟩

theorem write_of_read {bytes : List UInt8} (h : d.read here p = .ok bytes)
    (bytes' : List UInt8) :
    d.write here p bytes' = .ok (d.put (p.place here) (.file bytes')) := by
  obtain ⟨hleads, hfile⟩ := read_eq_ok_iff.1 h
  exact write_eq_ok_iff.2 ⟨hleads, .inl ⟨bytes, hfile⟩, rfl⟩

theorem read_put {l : Location} {bytes : List UInt8} (entry : Entry)
    (h : d.read here p = .ok bytes) (hl : d.lookup l ≠ some .directory)
    (hne : l ≠ p.place here) : (d.put l entry).read here p = .ok bytes := by
  obtain ⟨hleads, hfile⟩ := read_eq_ok_iff.1 h
  exact read_eq_ok_iff.2 ⟨hleads.put hl, (lookup_put_ne d entry hne).trans hfile⟩

theorem isDirectory_put {l : Location} (entry : Entry) (h : d.isDirectory here p = .ok true)
    (hl : d.lookup l ≠ some .directory) : (d.put l entry).isDirectory here p = .ok true := by
  obtain ⟨hleads, hdir⟩ := isDirectory_eq_true_iff.1 h
  have hne : l ≠ p.place here := by
    rintro rfl
    exact hl hdir
  exact isDirectory_eq_true_iff.2 ⟨hleads.put hl, (lookup_put_ne d entry hne).trans hdir⟩

/-- The disk with a directory at a path; one that is there already is as good as a new one. -/
def acceptDirectory (d : Disk) (here : Location) (p : Path) : Except Fault Disk :=
  match d.makeDirectory here p with
  | .ok e => .ok e
  | .error f =>
    if f.cause = .missing then .error f
    else match d.isDirectory here p with
      | .ok true => .ok d
      | .ok false => .error f
      | .error f => .error f

theorem makeDirectory_of_isDirectory (h : d.isDirectory here p = .ok true) :
    d.makeDirectory here p = .error ⟨.alreadyThere, p⟩ := by
  obtain ⟨hleads, hdir⟩ := isDirectory_eq_true_iff.1 h
  rw [Leads] at hleads
  simp [makeDirectory, hleads, hdir]

theorem acceptDirectory_eq_ok_iff :
    d.acceptDirectory here p = .ok e ↔
      d.makeDirectory here p = .ok e ∨ d.isDirectory here p = .ok true ∧ e = d := by
  unfold acceptDirectory
  constructor
  · intro h
    split at h
    · exact .inl (by simp_all)
    · split at h
      · cases h
      · split at h
        · rename_i hdir
          cases h
          exact .inr ⟨hdir, rfl⟩
        · cases h
        · cases h
  · rintro (h | ⟨h, rfl⟩)
    · simp [h]
    · simp [makeDirectory_of_isDirectory h, h]

theorem isDirectory_of_acceptDirectory (h : d.acceptDirectory here p = .ok e) :
    e.isDirectory here p = .ok true := by
  rcases acceptDirectory_eq_ok_iff.1 h with h | ⟨h, rfl⟩
  · obtain ⟨hleads, hnone, hparent, rfl⟩ := makeDirectory_eq_ok_iff.1 h
    have hplace : p.place here ≠ [] := by
      intro hnil
      rw [hnil] at hnone
      cases hnone
    exact isDirectory_eq_true_iff.2 ⟨hleads.put (by simp [hnone]), lookup_put_self d _ hplace⟩
  · exact h

theorem acceptDirectory_lookup (h : d.acceptDirectory here p = .ok e) {m : Location}
    (hm : m ≠ p.place here ∨ d.lookup m ≠ none) : e.lookup m = d.lookup m := by
  rcases acceptDirectory_eq_ok_iff.1 h with h | ⟨_, rfl⟩
  · obtain ⟨_, hnone, _, rfl⟩ := makeDirectory_eq_ok_iff.1 h
    apply lookup_put_ne
    rintro rfl
    rcases hm with hm | hm
    · exact hm rfl
    · exact hm hnone
  · rfl

/-! Paths on which nothing is missing -/

def Grounded (d : Disk) (l : Location) : Prop := ∀ m, m <+: l → d.lookup m = some .directory

theorem Grounded.standing {l : Location} (h : d.Grounded l) : d.lookup l = some .directory :=
  h l (List.prefix_refl l)

theorem Grounded.follow {l : Location} {s : String} (h : d.Grounded l)
    (hnext : d.lookup (follow l s) = some .directory) : d.Grounded (follow l s) := by
  intro m hm
  by_cases hs : s = ".."
  · rw [Disk.follow, if_pos hs] at hm
    exact h m (hm.trans (List.dropLast_prefix l))
  · rw [Disk.follow, if_neg hs] at hm hnext
    rcases List.prefix_concat_iff.1 hm with rfl | hm
    · exact hnext
    · exact h m hm

theorem Grounded.aim {base : Location} {segments : List String} (h : d.Grounded base)
    (htrail : ∀ m ∈ stops base segments ++ [Disk.aim base segments],
      d.lookup m = some .directory) : d.Grounded (Disk.aim base segments) := by
  induction segments generalizing base with
  | nil => exact h
  | cons s r ih =>
    have hrest := (List.forall_mem_cons.1 htrail).2
    refine ih (h.follow (hrest _ ?_)) hrest
    cases r <;> simp [stops, Disk.aim]

theorem Grounded.start (h : d.Grounded here) (p : Path) : d.Grounded (p.start here) := by
  unfold Path.start
  split
  · intro m hm
    rw [List.prefix_nil.1 hm, lookup_nil]
  · exact h

theorem Grounded.place (h : d.Grounded here)
    (htrail : ∀ m ∈ p.trail here, d.lookup m = some .directory) : d.Grounded (p.place here) :=
  (h.start p).aim htrail

/-- There is a directory for a path to be in. -/
structure Reaches (d : Disk) (here : Location) (p : Path) : Prop where
  way : ∀ m ∈ p.way here, d.lookup m = some .directory
  parent : d.lookup (p.place here) = none → d.lookup (p.place here).dropLast = some .directory

theorem walk_ne_missing {base : Location} {segments : List String}
    (h : ∀ m ∈ stops base segments, d.lookup m = some .directory) :
    d.walk base segments ≠ .error .missing := by
  induction segments generalizing base with
  | nil => nofun
  | cons s r ih =>
    obtain ⟨hbase, hrest⟩ := List.forall_mem_cons.1 h
    by_cases hs : Walkable s
    · rw [walk_cons d r hbase hs]
      exact ih hrest
    · rw [Walkable, not_or, Nat.not_le] at hs
      simp [walk, hbase, hs.1, hs.2]

theorem Reaches.locate_ne_missing (h : d.Reaches here p) : d.locate here p ≠ .error .missing := by
  unfold locate
  split
  · nofun
  · split
    · nofun
    · split
      · nofun
      · exact walk_ne_missing h.way

theorem Reaches.write_cause_ne (h : d.Reaches here p) {bytes : List UInt8} {f : Fault}
    (hwrite : d.write here p bytes = .error f) : f.cause ≠ .missing := by
  unfold write at hwrite
  split at hwrite
  · rename_i cause hlocate
    cases hwrite
    rintro rfl
    exact h.locate_ne_missing hlocate
  · rename_i l hlocate
    obtain ⟨_, rfl⟩ := leads_of_locate hlocate
    split at hwrite
    · cases hwrite
      nofun
    · cases hwrite
    · rename_i hnone
      rw [h.parent hnone] at hwrite
      cases hwrite

theorem Reaches.makeDirectory_cause_ne (h : d.Reaches here p) {f : Fault}
    (hmake : d.makeDirectory here p = .error f) : f.cause ≠ .missing := by
  unfold makeDirectory at hmake
  split at hmake
  · rename_i cause hlocate
    cases hmake
    rintro rfl
    exact h.locate_ne_missing hlocate
  · rename_i l hlocate
    obtain ⟨_, rfl⟩ := leads_of_locate hlocate
    split at hmake
    · cases hmake
      nofun
    · rename_i hnone
      rw [h.parent hnone] at hmake
      cases hmake

theorem isDirectory_eq_error {f : Fault} (h : d.isDirectory here p = .error f) :
    f.cause = .nameTooLong := by
  unfold isDirectory find? at h
  cases hlocate : d.locate here p with
  | ok l =>
    rw [hlocate] at h
    cases h
  | error cause =>
    rw [hlocate] at h
    cases cause with
    | nameTooLong =>
      cases h
      rfl
    | _ => cases h

theorem Reaches.acceptDirectory_cause_ne (h : d.Reaches here p) {f : Fault}
    (haccept : d.acceptDirectory here p = .error f) : f.cause ≠ .missing := by
  unfold acceptDirectory at haccept
  split at haccept
  · cases haccept
  · rename_i hmake
    have hcause := h.makeDirectory_cause_ne hmake
    rw [if_neg hcause] at haccept
    split at haccept
    · cases haccept
    · cases haccept
      exact hcause
    · rename_i hdir
      cases haccept
      rw [isDirectory_eq_error hdir]
      nofun

theorem Grounded.reaches (h : d.Grounded here)
    (hparent : p.segments ≠ [] → d.isDirectory here p.parent = .ok true) : d.Reaches here p := by
  obtain ⟨slashes, segments⟩ := p
  rcases List.eq_nil_or_concat segments with rfl | ⟨init, s, rfl⟩
  · have hstart : d.lookup (Path.place here ⟨slashes, []⟩) = some .directory :=
      (h.start ⟨slashes, []⟩).standing
    refine ⟨nofun, fun hnone => ?_⟩
    rw [hstart] at hnone
    cases hnone
  · rw [List.concat_eq_append] at hparent ⊢
    have hinit : Path.parent ⟨slashes, init ++ [s]⟩ = ⟨slashes, init⟩ := by simp [Path.parent]
    obtain ⟨hleads, hdir⟩ := isDirectory_eq_true_iff.1 (hinit ▸ hparent (by simp))
    have htrail : ∀ m ∈ Path.trail here ⟨slashes, init⟩, d.lookup m = some .directory := by
      intro m hm
      rcases List.mem_append.1 hm with hway | hplace
      · exact (leads_iff.1 hleads).1 m hway
      · rw [List.mem_singleton.1 hplace, hdir]
    refine ⟨?_, fun hnone => ?_⟩
    · rw [Path.way_append here ⟨slashes, init⟩]
      exact htrail
    · by_cases hs : s = ".."
      · -- one step up from a grounded place is a directory
        have hup : Path.place here ⟨slashes, init ++ [s]⟩ =
            (Path.place here ⟨slashes, init⟩).dropLast := by
          rw [hs]
          exact aim_append _ init [".."]
        rw [hup, h.place htrail _ (List.dropLast_prefix _)] at hnone
        cases hnone
      · rw [Path.place_append here ⟨slashes, init⟩ hs, List.dropLast_concat]
        exact hdir

theorem locate_eq_nameTooLong (h : d.locate here p = .error .nameTooLong) :
    pathLimit < p.text.utf8ByteSize ∨ d.walk (p.start here) p.segments = .error .nameTooLong := by
  unfold locate at h
  split at h
  · cases h
  · split at h
    · cases h
    · split at h
      · exact .inl ‹_›
      · exact .inr h

theorem locate_of_find?_eq_error {f : Fault} (h : d.find? here p = .error f) :
    d.locate here p = .error .nameTooLong := by
  unfold find? at h
  split at h
  · cases h
  · assumption
  · cases h

theorem isFile_of_find? {entry : Option Entry} (h : d.find? here p = .ok entry) :
    ∃ there, d.isFile here p = .ok there := by
  unfold isFile
  rw [h]
  rcases entry with _ | _ | bytes <;> exact ⟨_, rfl⟩

theorem Leads.way_sibling {name name' : String}
    (h : d.Leads here ⟨p.slashes, p.segments ++ [name]⟩) (hname : Walkable name') :
    (∀ m ∈ Path.way here ⟨p.slashes, p.segments ++ [name']⟩, d.lookup m = some .directory) ∧
      ∀ s ∈ p.segments ++ [name'], Walkable s := by
  obtain ⟨hway, -, hwalkable⟩ := leads_iff.1 h
  rw [Path.way_append, ← Path.way_append here p name'] at hway
  refine ⟨hway, fun s hs => ?_⟩
  rcases List.mem_append.1 hs with hs | hs
  · exact hwalkable s (List.mem_append_left _ hs)
  · rwa [List.mem_singleton.1 hs]

theorem Leads.isFile_sibling {name name' : String}
    (h : d.Leads here ⟨p.slashes, p.segments ++ [name]⟩) (hname : Walkable name')
    (hshort : name'.utf8ByteSize ≤ name.utf8ByteSize) :
    ∃ there, d.isFile here ⟨p.slashes, p.segments ++ [name']⟩ = .ok there := by
  cases hfind : d.find? here ⟨p.slashes, p.segments ++ [name']⟩ with
  | ok entry => exact isFile_of_find? hfind
  | error f =>
    exfalso
    rcases locate_eq_nameTooLong (locate_of_find?_eq_error hfind) with hlong | hwalk
    · obtain ⟨-, -, hsize⟩ := Path.objection?_eq_none_iff.1 (leads_iff.1 h).2.1
      have hle := Path.size_append_le p hshort
      omega
    · obtain ⟨hway, hwalkable⟩ := h.way_sibling hname
      rw [(walk_eq_ok_iff d _ _ _).2 ⟨rfl, hway, hwalkable⟩] at hwalk
      cases hwalk

/-! Names that no disk refuses -/

def span : List String → Nat
  | [] => 0
  | s :: r => s.length + 1 + span r

theorem span_append (a b : List String) : span (a ++ b) = span a + span b := by
  induction a with
  | nil => simp [span]
  | cons s r ih =>
    rw [List.cons_append, span, span, ih]
    omega

theorem length_lt_span {s : String} {segments : List String} (h : s ∈ segments) :
    s.length < span segments := by
  obtain ⟨a, b, rfl⟩ := List.append_of_mem h
  rw [span_append, span]
  omega

theorem length_intercalate_le (segments : List String) :
    (['/'].intercalate (segments.map String.toList)).length ≤ span segments := by
  induction segments with
  | nil => simp [span]
  | cons s r ih =>
    cases r with
    | nil => simp [span, String.length_toList]
    | cons t r =>
      rw [List.map_cons, List.map_cons, List.intercalate_cons_cons, ← List.map_cons,
        List.length_append, List.length_append, String.length_toList, List.length_singleton, span]
      omega

/-- Few and plain characters, and no double dots. -/
structure Modest (segments : List String) : Prop where
  plain : ∀ s ∈ segments, ∀ c ∈ s.toList, 0 < c.toNat ∧ c.toNat < 128
  short : span segments ≤ 256
  down : ".." ∉ segments

theorem utf8Len_eq_length {cs : List Char} (h : ∀ c ∈ cs, c.toNat < 128) :
    String.utf8Len cs = cs.length := by
  induction cs with
  | nil => rfl
  | cons c r ih =>
    have hc : c.utf8Size = 1 := by
      rw [Char.utf8Size_eq_one_iff, UInt32.le_iff_toNat_le]
      have hlt : c.toNat < 128 := h c (by simp)
      change c.toNat ≤ 127
      omega
    rw [String.utf8Len_cons, ih fun c hc => h c (List.mem_cons_of_mem _ hc), hc,
      List.length_cons]

theorem utf8ByteSize_eq_length {s : String} (h : ∀ c ∈ s.toList, c.toNat < 128) :
    s.utf8ByteSize = s.length := by
  rw [← String.utf8Len_toList, utf8Len_eq_length h, String.length_toList]

theorem Modest.walkable {segments : List String} (h : Modest segments) :
    ∀ s ∈ segments, Walkable s := by
  intro s hs
  right
  have hsize : s.utf8ByteSize = s.length :=
    utf8ByteSize_eq_length fun c hc => (h.plain s hs c hc).2
  have hlength := length_lt_span hs
  have hshort := h.short
  rw [hsize, nameLimit]
  omega

theorem unencodableFrom_of_plain {cs : List Char} (h : ∀ c ∈ cs, c.toNat < 128) (position : Nat) :
    Text.Utf8.unencodableFrom position cs = none := by
  induction cs generalizing position with
  | nil => rfl
  | cons c r ih =>
    have hc := h c (by simp)
    have hhalf : Text.half? c = none := by
      unfold Text.half?
      rw [if_neg]
      simp only [Bool.and_eq_true, decide_eq_true_eq]
      omega
    rw [Text.Utf8.unencodableFrom, hhalf]
    exact ih (fun c hc => h c (List.mem_cons_of_mem _ hc)) _

theorem unencodableFrom_append_eq_none {position : Nat} {a b : List Char} :
    Text.Utf8.unencodableFrom position (a ++ b) = none ↔
      Text.Utf8.unencodableFrom position a = none ∧
        Text.Utf8.unencodableFrom (position + a.length) b = none := by
  induction a generalizing position with
  | nil => simp [Text.Utf8.unencodableFrom]
  | cons c r ih =>
    have hlength : position + (c :: r).length = position + 1 + r.length := by
      rw [List.length_cons]
      omega
    rw [List.cons_append, Text.Utf8.unencodableFrom, Text.Utf8.unencodableFrom, hlength]
    split
    · split
      · exact ih
      · simp
    · exact ih

theorem Leads.sibling {name name' : String} {there : Bool}
    (h : d.Leads here ⟨p.slashes, p.segments ++ [name]⟩) (hname : Walkable name')
    (hplain : ∀ c ∈ name'.toList, 0 < c.toNat ∧ c.toNat < 128)
    (hasked : d.isFile here ⟨p.slashes, p.segments ++ [name']⟩ = .ok there) :
    d.Leads here ⟨p.slashes, p.segments ++ [name']⟩ := by
  obtain ⟨hencodable, hnull, -⟩ := Path.objection?_eq_none_iff.1 (leads_iff.1 h).2.1
  obtain ⟨front, hfront⟩ := Path.exists_text_append p
  have hencodable' : Path.unencodable? ⟨p.slashes, p.segments ++ [name']⟩ = none := by
    rw [Path.unencodable?, hfront, unencodableFrom_append_eq_none] at hencodable ⊢
    exact ⟨hencodable.1, unencodableFrom_of_plain (fun c hc => (hplain c hc).2) _⟩
  have hnull' : Path.hasNull ⟨p.slashes, p.segments ++ [name']⟩ = false := by
    rw [Path.hasNull, List.any_append, Bool.or_eq_false_iff] at hnull ⊢
    refine ⟨hnull.1, ?_⟩
    rw [List.any_eq_false]
    intro s hs hmem
    rw [List.mem_singleton.1 hs] at hmem
    have hzero := (hplain '\x00' (by simpa using hmem)).1
    revert hzero
    decide
  obtain ⟨hway, hwalkable⟩ := h.way_sibling hname
  refine leads_iff.2 ⟨hway, Path.objection?_eq_none_iff.2 ⟨hencodable', hnull', ?_⟩, hwalkable⟩
  -- a path that is too long cannot be asked for
  by_contra hlong
  have hobjection : Path.objection? ⟨p.slashes, p.segments ++ [name']⟩ = some .nameTooLong := by
    rw [Path.objection?, hencodable', hnull']
    exact if_pos (Nat.lt_of_not_le hlong)
  have hfind : d.find? here ⟨p.slashes, p.segments ++ [name']⟩ =
      .error ⟨.nameTooLong, ⟨p.slashes, p.segments ++ [name']⟩⟩ := by
    rw [find?, locate_eq, hobjection]
  rw [isFile, hfind] at hasked
  cases hasked

theorem Modest.objection?_eq_none {segments : List String} (h : Modest segments)
    (hne : segments ≠ []) : Path.objection? ⟨0, segments⟩ = none := by
  have hsegments : segments.isEmpty = false := List.isEmpty_eq_false_iff.2 hne
  have htext : (Path.text ⟨0, segments⟩).toList =
      ['/'].intercalate (segments.map String.toList) := by
    simp [Path.text, hsegments, String.toList_intercalate]
  have hplain : ∀ c ∈ (Path.text ⟨0, segments⟩).toList, c.toNat < 128 := by
    intro c hc
    rw [htext] at hc
    rcases Text.mem_intercalate hc with hc | ⟨l, hl, hc⟩
    · obtain rfl := List.mem_singleton.1 hc
      decide
    · obtain ⟨s, hs, rfl⟩ := List.mem_map.1 hl
      exact (h.plain s hs c hc).2
  have hsize : (Path.text ⟨0, segments⟩).utf8ByteSize ≤ 256 := by
    rw [utf8ByteSize_eq_length hplain, ← String.length_toList, htext]
    exact (length_intercalate_le segments).trans h.short
  have hnull : Path.hasNull ⟨0, segments⟩ = false := by
    rw [Path.hasNull, List.any_eq_false]
    intro s hs hmem
    have hzero := (h.plain s hs '\x00' (by simpa using hmem)).1
    revert hzero
    decide
  unfold Path.objection?
  rw [Path.unencodable?, unencodableFrom_of_plain hplain, hnull, pathLimit]
  simp only [Bool.false_eq_true, if_false]
  rw [if_neg (by omega)]

end Disk

end ExportBundle
