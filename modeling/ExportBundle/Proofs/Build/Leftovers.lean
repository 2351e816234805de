import ExportBundle.Proofs.Build.Commands
import ExportBundle.Proofs.Tool.Failures
import ExportBundle.Tool.Rehearsal

/-! What an earlier capture leaves for the next one. A side with something to install has the
snapshot of what was asked for, whatever was in its directory before. A side with nothing to install
has that of the lockfile which is left there, so it repeats the snapshot of the capture before. -/

namespace ExportBundle

variable {depths : Depths} {τ σ : Type}

def Disk.fileAt? (d : Disk) (l : Location) : Option (List UInt8) :=
  match d.lookup l with
  | some (.file bytes) => some bytes
  | _ => none

theorem Disk.fileAt?_eq_some {d : Disk} {l : Location} {bytes : List UInt8} :
    d.fileAt? l = some bytes ↔ d.lookup l = some (.file bytes) := by
  unfold fileAt?
  split
  · rename_i old hold
    simp [hold]
  · rename_i hother
    exact ⟨nofun, fun h => absurd h (hother bytes)⟩

theorem Disk.fileAt?_eq_none {d : Disk} {l : Location}
    (h : ∀ bytes, d.lookup l ≠ some (.file bytes)) : d.fileAt? l = none := by
  cases hfile : d.fileAt? l with
  | none => rfl
  | some bytes => exact absurd (fileAt?_eq_some.1 hfile) (h bytes)

theorem Disk.fileAt?_congr {d d' : Disk} {l : Location} (h : d'.lookup l = d.lookup l) :
    d'.fileAt? l = d.fileAt? l := by
  rw [fileAt?, fileAt?, h]

/-- Outside of the region the second world has the files of the first one. -/
structure World.FilesKept (region : Location → Location → Prop) (w v : World τ σ) : Prop where
  here : v.here = w.here
  files : ∀ l, ¬ region w.here l → v.disk.fileAt? l = w.disk.fileAt? l

instance (region : Location → Location → Prop) :
    IsPreorder (World τ σ) (World.FilesKept region) where
  refl _ := ⟨rfl, fun _ _ => rfl⟩
  trans _ _ _ h h' := ⟨h'.here.trans h.here, fun l hl =>
    (h'.files l (h.here ▸ hl)).trans (h.files l hl)⟩

namespace Act

variable {region : Location → Location → Prop}

theorem filesKept_makeDirectories (p : Path) :
    Moves (World.FilesKept region) (makeDirectories p : Act τ σ Unit) := by
  refine moves_makeDirectoriesUpTo _ fun q _ _ w => ?_
  rw [perform_acceptDirectory]
  cases haccept : w.disk.acceptDirectory w.here q with
  | error f => exact Std.Refl.refl w
  | ok e =>
    refine ⟨rfl, fun l _ => ?_⟩
    by_cases hnew : l = q.place w.here ∧ w.disk.lookup l = none
    · obtain ⟨rfl, hnone⟩ := hnew
      have hdir := (Disk.isDirectory_eq_true_iff.1 (Disk.isDirectory_of_acceptDirectory haccept)).2
      simp [Disk.fileAt?, hnone, hdir]
    · exact Disk.fileAt?_congr (Disk.acceptDirectory_lookup haccept (not_and_or.1 hnew))

theorem filesKept_writeBytes {p : Path} (h : ∀ here, region here (p.place here))
    (bytes : List UInt8) : Moves (World.FilesKept region) (writeBytes p bytes : Act τ σ Unit) := by
  intro w
  rw [perform_writeBytes]
  cases hwrite : w.disk.write w.here p bytes with
  | error f => exact Std.Refl.refl w
  | ok e =>
    obtain ⟨_, _, rfl⟩ := Disk.write_eq_ok_iff.1 hwrite
    refine ⟨rfl, fun l hl => Disk.fileAt?_congr (Disk.lookup_put_ne _ _ ?_)⟩
    rintro rfl
    exact hl (h w.here)

end Act

namespace Build

open Act

def Below (directory : Path) (here l : Location) : Prop := directory.place here <+: l

/-- An installer that does what it is asked for. A listing depends on the project alone and touches
no file. Where there is nothing to install nothing is done, and otherwise the lockfile of the
directory states what was asked for, and no file elsewhere is touched. -/
structure Faithful [Depths] (installer : Installer τ σ) (listed : Path → List String)
    (lockOf : Path → List String → List UInt8) : Prop where
  list {project : Path} {w v : World τ σ} {names : List String}
    (h : (installer.list project).perform w = (.ok names, v)) :
    names = listed project ∧ World.FilesKept (fun _ _ => False) w v
  nothing (directory : Path) (w : World τ σ) :
    (installer.install [] directory).perform w = (.ok (), w)
  lock {names : List String} {directory : Path} {w v : World τ σ} (hnames : names ≠ [])
    (h : (installer.install names directory).perform w = (.ok (), v)) :
    v.disk.read v.here (directory.child lockName) = .ok (lockOf directory names)
  keeps (names : List String) (directory : Path) :
    Moves (World.FilesKept (Below directory)) (installer.install names directory)

def lockIn (w : World τ σ) (directory : Path) : Option (List UInt8) :=
  w.disk.fileAt? ((directory.child lockName).place w.here)

/-- The snapshot that a lockfile describes. Without one there are no packages. -/
def lockSnapshot [Depths] (label : String) : Option (List UInt8) → Except Failure Snapshot
  | none => .ok (Snapshot.empty label)
  | some bytes => do
    let lock ← documentOf bytes
    (Snapshot.ofLock label lock).mapError .misuse

/-- The lockfile in a directory after one side was captured there. -/
def lockAfter (lockOf : Path → List String → List UInt8) (w : World τ σ) (names : List String)
    (directory : Path) : Option (List UInt8) :=
  if names = [] then lockIn w directory else some (lockOf directory names)

variable {installer : Installer τ σ} {listed : Path → List String}
  {lockOf : Path → List String → List UInt8} {region : Location → Location → Prop}
  {label : String} {names : List String} {host project work directory : Path} {s t : Snapshot}
  {w v : World τ σ}

theorem faithful_installer {n : Npm} {tools : Tools τ}
    (hlist : ∀ {project : Path} {w v : World τ σ} {names : List String},
      (n.list tools project).perform w = (.ok names, v) →
        names = listed project ∧ World.FilesKept (fun _ _ => False) w v)
    (hlock : ∀ names directory here s d output, names ≠ [] →
      (tools (n.installCommand names directory) here s d).1 = .finished output → output.code = 0 →
        (tools (n.installCommand names directory) here s d).2.2.read here
          (directory.child lockName) = .ok (lockOf directory names))
    (hkeeps : ∀ names directory here s d l, ¬ Below directory here l →
      (tools (n.installCommand names directory) here s d).2.2.fileAt? l = d.fileAt? l) :
    Faithful (n.installer tools : Installer τ σ) listed lockOf where
  list := hlist
  nothing _ _ := rfl
  lock := by
    intro names directory w v hnames h
    have hrun : (n.install tools names directory : Act τ σ Unit).perform w = (.ok (), v) := h
    rw [Npm.install, if_neg (by simpa using hnames)] at hrun
    obtain ⟨output, u, hrun, hlast⟩ := bind_eq_ok_iff.1 hrun
    obtain ⟨hfinished, hcode, rfl⟩ := runChecked_eq_ok_iff.1 hrun
    obtain ⟨-, rfl⟩ := Prod.mk.inj hlast
    exact hlock names directory w.here w.tools w.disk output hnames hfinished hcode
  keeps names directory := by
    have hrun : Moves (World.FilesKept (Below directory))
        (run tools (n.installCommand names directory) : Act τ σ Output) := fun w => by
      rw [perform_run]
      exact ⟨rfl, fun l hl => hkeeps names directory w.here w.tools w.disk l hl⟩
    change Moves _ (n.install tools names directory)
    unfold Npm.install
    split
    · exact moves_pure _
    · refine Moves.bind (hrun.bind fun output => ?_) fun _ => moves_pure _
      split
      · exact (moves_fail _).bind fun _ => moves_pure _
      · exact moves_pure _

/-! Capturing one side -/

theorem place_lock (here : Location) (directory : Path) :
    (directory.child lockName).place here = directory.place here ++ [lockName] := by
  rw [child_lock, Path.place_append here directory (by decide)]

theorem place_manifest (here : Location) (directory : Path) :
    (directory.child manifestName).place here = directory.place here ++ [manifestName] := by
  rw [child_manifest, Path.place_append here directory (by decide)]

theorem lockIn_of_read {bytes : List UInt8}
    (h : w.disk.read w.here (directory.child lockName) = .ok bytes) :
    lockIn w directory = some bytes :=
  Disk.fileAt?_eq_some.2 (Disk.read_eq_ok_iff.1 h).2

theorem lockIn_of_filesKept (h : World.FilesKept region w v)
    (hregion : ¬ region w.here ((directory.child lockName).place w.here)) :
    lockIn v directory = lockIn w directory := by
  rw [lockIn, lockIn, h.here]
  exact h.files _ hregion

def lockPath (p : Path) (directory : Bool) : Path := if directory then p.child lockName else p

theorem readLock_eq (label : String) (p : Path) (w : World τ σ) :
    (readLock label p).perform w = (match w.disk.isDirectory w.here p with
      | .error f => .error (.disk f)
      | .ok directory =>
        match w.disk.read w.here (lockPath p directory) with
        | .error f => .error (.disk f)
        | .ok bytes => lockSnapshot label (some bytes), w) := by
  rw [readLock, Act.isDirectory, perform_bind, perform_inquire]
  cases w.disk.isDirectory w.here p with
  | error f => rfl
  | ok directory =>
    dsimp only [Except.mapError]
    rw [perform_bind, perform_readJson]
    have hpath : (if directory = true then p.child lockName else p) = lockPath p directory := rfl
    rw [hpath]
    cases w.disk.read w.here (lockPath p directory) with
    | error f => rfl
    | ok bytes =>
      dsimp only [lockSnapshot]
      cases documentOf bytes with
      | error e => rfl
      | ok lock => exact perform_lift _ _ w

theorem perform_readLock {p : Path} {bytes : List UInt8} (h : w.disk.read w.here p = .ok bytes) :
    (readLock label p).perform w = (lockSnapshot label (some bytes), w) := by
  have hdir : w.disk.isDirectory w.here p = .ok false := by
    rw [Disk.isDirectory, Disk.find?_eq_some_iff.2 (Disk.read_eq_ok_iff.1 h)]
    rfl
  have hpath : lockPath p false = p := rfl
  rw [readLock_eq, hdir]
  simp only [hpath, h]

theorem filesKept_captureSide (hf : Faithful installer listed lockOf) (label : String)
    (names : List String) (work : Path) :
    Moves (World.FilesKept (Below (work.child label))) (captureSide installer label names work) := by
  refine (filesKept_makeDirectories _).bind fun _ => ?_
  refine (filesKept_writeBytes (fun here => ?_) _).bind fun _ => ?_
  · rw [Below, place_manifest]
    exact List.prefix_append _ _
  refine (hf.keeps names _).bind fun _ => (moves_inquire _).bind fun there => ?_
  split
  · exact moves_readLock label _
  · exact moves_pure _

theorem readLockOrNone_eq_ok {there : Bool}
    (hthere : w.disk.isFile w.here (directory.child lockName) = .ok there)
    (hnone : there = false → lockIn w directory = none)
    (h : (if there then readLock label (directory.child lockName)
      else pure (Snapshot.empty label) : Act τ σ Snapshot).perform w = (.ok s, v)) :
    v = w ∧ lockSnapshot label (lockIn w directory) = .ok s := by
  cases there with
  | false =>
    obtain ⟨hs, rfl⟩ := Prod.mk.inj h
    rw [hnone rfl]
    exact ⟨rfl, hs⟩
  | true =>
    obtain ⟨hleads, bytes, hbytes⟩ := Disk.isFile_eq_true_iff.1 hthere
    have hread := Disk.read_eq_ok_iff.2 ⟨hleads, hbytes⟩
    rw [if_pos rfl, perform_readLock hread] at h
    obtain ⟨hs, rfl⟩ := Prod.mk.inj h
    rw [lockIn_of_read hread]
    exact ⟨rfl, hs⟩

theorem lockIn_eq_none_of_written {bytes : List UInt8} {u : World τ σ}
    (hwrite : (writeBytes (directory.child manifestName) bytes).perform w = (.ok (), u))
    (hfile : u.disk.isFile u.here (directory.child lockName) = .ok false) :
    lockIn u directory = none := by
  obtain ⟨disk, hdisk, rfl⟩ := writeBytes_eq_ok_iff.1 hwrite
  obtain ⟨hleads, htakes, rfl⟩ := Disk.write_eq_ok_iff.1 hdisk
  have hwritten : (w.disk.put ((directory.child manifestName).place w.here) (.file bytes)).Leads
      w.here (directory.child manifestName) := hleads.put htakes.ne_directory
  have hlock : (w.disk.put ((directory.child manifestName).place w.here) (.file bytes)).Leads
      w.here (directory.child lockName) := by
    rw [child_manifest] at hwritten
    rw [child_lock] at hfile ⊢
    exact hwritten.sibling (.inr (by decide)) (by decide) hfile
  refine Disk.fileAt?_eq_none fun old hold => ?_
  rw [Disk.isFile_eq_true_iff.2 ⟨hlock, old, hold⟩] at hfile
  cases hfile

/-- The snapshot of a side is that of the lockfile which is in its directory in the end, and this is
the one that was there before if there is nothing to install. -/
theorem captureSide_eq_ok (hf : Faithful installer listed lockOf)
    (h : (captureSide installer label names work).perform w = (.ok s, v)) :
    lockIn v (work.child label) = lockAfter lockOf w names (work.child label) ∧
      lockSnapshot label (lockIn v (work.child label)) = .ok s := by
  generalize hdirectory : work.child label = directory
  rw [captureSide, hdirectory] at h
  obtain ⟨⟨⟩, w₁, hmake, hrest⟩ := bind_eq_ok_iff.1 h
  obtain ⟨⟨⟩, w₂, hwrite, hrest⟩ := bind_eq_ok_iff.1 hrest
  obtain ⟨⟨⟩, w₃, hinstall, hrest⟩ := bind_eq_ok_iff.1 hrest
  obtain ⟨there, u, hask, hlast⟩ := bind_eq_ok_iff.1 hrest
  obtain ⟨hthere, rfl⟩ := inquire_eq_ok_iff.1 hask
  by_cases hnames : names = []
  · have hu : u = w₂ := by
      rw [hnames, hf.nothing] at hinstall
      exact (Prod.mk.inj hinstall).2.symm
    rw [← hu] at hwrite
    obtain ⟨hv, hs⟩ := readLockOrNone_eq_ok hthere
      (fun hfalse => lockIn_eq_none_of_written hwrite (hfalse ▸ hthere)) hlast
    have hkept : World.FilesKept (fun _ _ => False) w w₁ :=
      (filesKept_makeDirectories directory).of_perform hmake
    have hkept' : World.FilesKept (fun here l => l = directory.place here ++ [manifestName]) w₁ u :=
      (filesKept_writeBytes (place_manifest · directory) _).of_perform hwrite
    have hmade : lockIn w₁ directory = lockIn w directory := lockIn_of_filesKept hkept not_false
    have hwritten : lockIn u directory = lockIn w₁ directory := by
      refine lockIn_of_filesKept hkept' ?_
      rw [place_lock]
      simp [lockName, manifestName]
    rw [hv, lockAfter, if_pos hnames, ← hmade]
    exact ⟨hwritten, hs⟩
  · have hread := hf.lock hnames hinstall
    obtain ⟨hv, hs⟩ := readLockOrNone_eq_ok hthere (fun hfalse => by
      rw [Disk.isFile_of_read hread, hfalse] at hthere
      cases hthere) hlast
    rw [hv, lockAfter, if_neg hnames]
    exact ⟨lockIn_of_read hread, hs⟩

def used : World Rehearsal.State Unit where
  disk := Disk.empty.plant ["work", "super", "package-lock.json"] (.file (Text.Utf8.encode
    "\x7b\"packages\": \x7b\"node_modules/web3\": \x7b\"version\": \"1.2.0\"\x7d\x7d\x7d".toList))
  here := []
  tools := .ofScript .standard
  names := ()
  temporaries := 0
  time := ""
  commands := []
  warnings := []
  steps := []

/-- With nothing to install there still is a package. -/
example :
    let _ : Depths := .ofCalls 900
    ((captureSide (Npm.standard.installer Rehearsal.tools) hostLabel []
      ⟨0, ["work"]⟩).perform used).1.toOption = some ⟨"super", [("web3", "1.2.0")]⟩ := by
  intro _
  decide +kernel

/-! Capturing both sides -/

/-- The snapshot of a side, from what is in its directory before and after the capture. -/
structure Taken [Depths] (lockOf : Path → List String → List UInt8) (label : String)
    (names : List String) (directory : Path) (w v : World τ σ) (s : Snapshot) : Prop where
  lock : lockIn v directory = lockAfter lockOf w names directory
  snapshot : lockSnapshot label (lockIn v directory) = .ok s

theorem lockAfter_congr {w' : World τ σ} (h : lockIn w' directory = lockIn w directory) :
    lockAfter lockOf w' names directory = lockAfter lockOf w names directory := by
  rw [lockAfter, lockAfter, h]

theorem place_side (hlabel : label ∈ [hostLabel, bundleLabel]) (here : Location) (work : Path) :
    (work.child label).place here = work.place here ++ [label] := by
  have hplain : ∀ label ∈ [hostLabel, bundleLabel],
      '/' ∉ label.toList ∧ label ≠ "" ∧ label ≠ "." := by decide
  obtain ⟨hslash, hempty, hdot⟩ := hplain label hlabel
  rw [Path.child_eq hslash hempty hdot, Path.place_append here work (label_ne_up hlabel).symm]

theorem not_below_lock {label' : String} (hlabel : label ∈ [hostLabel, bundleLabel])
    (hlabel' : label' ∈ [hostLabel, bundleLabel]) (hne : label ≠ label') (here : Location)
    (work : Path) :
    ¬ Below (work.child label) here (((work.child label').child lockName).place here) := by
  rw [Below, place_lock, place_side hlabel, place_side hlabel', List.append_assoc,
    List.prefix_append_right_inj]
  exact fun h => hne (List.cons_prefix_cons.1 h).1

theorem capture_eq_ok (hf : Faithful installer listed lockOf)
    (h : (capture installer host project work).perform w = (.ok (s, t), v)) :
    ∃ own, (packageName project).perform w = (.ok own, w) ∧
      Taken lockOf hostLabel (besides own (listed host)) (work.child hostLabel) w v s ∧
      Taken lockOf bundleLabel (besides own (listed project)) (work.child bundleLabel) w v t := by
  obtain ⟨own, w₁, hown, hrest⟩ := bind_eq_ok_iff.1 h
  obtain ⟨hostNames, w₂, hhost, hrest⟩ := bind_eq_ok_iff.1 hrest
  obtain ⟨projectNames, w₃, hproject, hrest⟩ := bind_eq_ok_iff.1 hrest
  obtain ⟨hostSide, u, hsuper, hrest⟩ := bind_eq_ok_iff.1 hrest
  obtain ⟨projectSide, v', hsub, hlast⟩ := bind_eq_ok_iff.1 hrest
  obtain ⟨hst, rfl⟩ := Prod.mk.inj hlast
  obtain ⟨rfl, rfl⟩ := Prod.mk.inj (Except.ok.inj hst)
  obtain ⟨rfl, -⟩ := answer?_packageName hown
  obtain ⟨rfl, hkept₂⟩ := hf.list hhost
  obtain ⟨rfl, hkept₃⟩ := hf.list hproject
  have hleft (directory : Path) : lockIn w₃ directory = lockIn w₁ directory :=
    (lockIn_of_filesKept hkept₃ not_false).trans (lockIn_of_filesKept hkept₂ not_false)
  have hfirst : lockIn u (work.child bundleLabel) = lockIn w₃ (work.child bundleLabel) :=
    lockIn_of_filesKept ((filesKept_captureSide hf _ _ _).of_perform hsuper)
      (not_below_lock (by simp) (by simp) (by decide) _ _)
  have hsecond : lockIn v' (work.child hostLabel) = lockIn u (work.child hostLabel) :=
    lockIn_of_filesKept ((filesKept_captureSide hf _ _ _).of_perform hsub)
      (not_below_lock (by simp) (by simp) (by decide) _ _)
  obtain ⟨hlock, hs⟩ := captureSide_eq_ok hf hsuper
  obtain ⟨hlock', ht⟩ := captureSide_eq_ok hf hsub
  refine ⟨own, hown, ⟨?_, ?_⟩, ⟨?_, ht⟩⟩
  · rw [hsecond, hlock]
    exact lockAfter_congr (hleft _)
  · rw [hsecond]
    exact hs
  · rw [hlock']
    exact lockAfter_congr (hfirst.trans (hleft _))

theorem Taken.eq_of_lock {s' : Snapshot} {names' : List String} {u u' v' : World τ σ}
    (h : Taken lockOf label names directory u v s)
    (h' : Taken lockOf label names' directory u' v' s')
    (hlock : lockIn v' directory = lockIn v directory) : s' = s :=
  Except.ok.inj (h'.snapshot.symm.trans (hlock ▸ h.snapshot))

theorem Taken.eq {s' : Snapshot} {w' v' : World τ σ}
    (h : Taken lockOf label names directory w v s)
    (h' : Taken lockOf label names directory w' v' s')
    (hleft : names = [] → lockIn w' directory = lockIn w directory) : s' = s := by
  refine h.eq_of_lock h' ?_
  rw [h'.lock, h.lock, lockAfter, lockAfter]
  split
  · exact hleft ‹_›
  · rfl

theorem Taken.eq_empty (h : Taken lockOf label names directory w v s) (hnames : names = [])
    (hleft : lockIn w directory = none) : s = Snapshot.empty label := by
  have hnone : lockIn v directory = none := by
    rw [h.lock, lockAfter, if_pos hnames, hleft]
  exact Except.ok.inj (h.snapshot.symm.trans (by rw [hnone, lockSnapshot]))

/-- Two captures of the same projects, with whatever else on the disk, take the same snapshots if a
side with nothing to install finds the same lockfile in its directory, or none, in both. -/
theorem capture_unique {s' t' : Snapshot} {w' v' : World τ σ} {own : Option String}
    (hf : Faithful installer listed lockOf)
    (hown : (packageName project).perform w = (.ok own, w))
    (hown' : (packageName project).perform w' = (.ok own, w'))
    (hhost : besides own (listed host) = [] →
      lockIn w' (work.child hostLabel) = lockIn w (work.child hostLabel))
    (hproject : besides own (listed project) = [] →
      lockIn w' (work.child bundleLabel) = lockIn w (work.child bundleLabel))
    (h : (capture installer host project work).perform w = (.ok (s, t), v))
    (h' : (capture installer host project work).perform w' = (.ok (s', t'), v')) :
    s' = s ∧ t' = t := by
  obtain ⟨_, ho, hs, ht⟩ := capture_eq_ok hf h
  obtain ⟨_, ho', hs', ht'⟩ := capture_eq_ok hf h'
  obtain rfl := Except.ok.inj (Prod.mk.inj (hown.symm.trans ho)).1
  obtain rfl := Except.ok.inj (Prod.mk.inj (hown'.symm.trans ho')).1
  exact ⟨hs.eq hs' hhost, ht.eq ht' hproject⟩

theorem Taken.again {s' : Snapshot} {names' : List String} {v' : World τ σ}
    (h : Taken lockOf label names directory w v s)
    (h' : Taken lockOf label names' directory v v' s') (hnames : names' = []) : s' = s :=
  h.eq_of_lock h' (by rw [h'.lock, lockAfter, if_pos hnames])

/-- A capture into the same directory, of whatever projects, repeats the snapshot of the capture
before for a side with nothing to install, though that side has no packages. -/
theorem capture_again {host' project' : Path} {s' t' : Snapshot} {v' : World τ σ}
    {own : Option String} (hf : Faithful installer listed lockOf)
    (h : (capture installer host project work).perform w = (.ok (s, t), v))
    (hown : (packageName project').perform v = (.ok own, v))
    (h' : (capture installer host' project' work).perform v = (.ok (s', t'), v')) :
    (besides own (listed host') = [] → s' = s) ∧
      (besides own (listed project') = [] → t' = t) := by
  obtain ⟨_, -, hs, ht⟩ := capture_eq_ok hf h
  obtain ⟨_, ho, hs', ht'⟩ := capture_eq_ok hf h'
  obtain rfl := Except.ok.inj (Prod.mk.inj (hown.symm.trans ho)).1
  exact ⟨hs.again hs', ht.again ht'⟩

end Build

end ExportBundle
