import ExportBundle.Proofs.Build.Frame

/-! Two builds side by side. Each works in a temporary directory of its own; the two directories have
the same in them, except that the manifests copied there need only declare the same. Elsewhere the
disks may differ in the manifests and lockfiles, as far as neither a fingerprint nor the tools see a
difference, and on the way to the output. Tools that cannot tell such disks apart, and every action
of a build, keep them so. -/

namespace ExportBundle.Build

open Act

variable {depths : Depths} {τ σ : Type}

def nameIn [Depths] (bytes : List UInt8) : Except Failure (Option String) :=
  match documentOf bytes with
  | .error e => .error e
  | .ok manifest =>
    match manifest.requireMembers with
    | .error m => .error (.misuse m)
    | .ok members => .ok ((members.get? "name").bind Json.Value.nonEmptyText?)

/-- Two manifests, or none, that declare the same dependencies in the eyes of a fingerprint. -/
def SameDependencies (manifest manifest' : Option Json.Value) : Prop :=
  ∃ v v', declared (manifest.getD .null) = .ok v ∧ declared (manifest'.getD .null) = .ok v' ∧
    Canonical.encode (.ofJson v) = Canonical.encode (.ofJson v')

abbrev Unseen := Option (List UInt8) → Option (List UInt8) → Prop

/-- Two manifest files that declare the same, have the same name where names count, and look the
same to the tools. -/
def SameManifest [Depths] (unseen : Unseen) (named : Prop) (bytes bytes' : List UInt8) : Prop :=
  bytes' = bytes ∨
    (∃ v v', documentOf bytes = .ok v ∧ documentOf bytes' = .ok v' ∧
      SameDependencies (some v) (some v')) ∧
    (named → nameIn bytes' = nameIn bytes) ∧ unseen (some bytes) (some bytes')

def contents (d : Disk) (here : Location) (p : Path) : Option (List UInt8) :=
  (d.read here p).toOption

def SameFile (unseen : Unseen) (d d' : Disk) (here : Location) (p : Path) : Prop :=
  contents d' here p = contents d here p ∨ unseen (contents d here p) (contents d' here p)

/-- Two disks on which a project has the same state in the eyes of a fingerprint. -/
structure SameDocuments [Depths] (d d' : Disk) (here : Location) (directory : Path) : Prop where
  dependencies : ∃ m m', d.document? here (directory.child manifestName) = .ok m ∧
    d'.document? here (directory.child manifestName) = .ok m' ∧ SameDependencies m m'
  lock : ∃ lock lock', d.document? here (directory.child lockName) = .ok lock ∧
    d'.document? here (directory.child lockName) = .ok lock' ∧
    Canonical.encode (.ofJson (lock.getD .null)) = Canonical.encode (.ofJson (lock'.getD .null))

/-- Two disks on which a project has the same state in the eyes of a fingerprint and of the
tools. -/
structure SameState [Depths] (unseen : Unseen) (d d' : Disk) (here : Location) (directory : Path) : Prop
    extends SameDocuments d d' here directory where
  manifestFile : SameFile unseen d d' here (directory.child manifestName)
  lockFile : SameFile unseen d d' here (directory.child lockName)

/-- The directories whose manifests and lockfiles a fingerprint is about. -/
def projects (config : Config) (project : Path) : List Path := project :: config.host.toList

def IsInput (directories : List Path) (here l : Location) : Prop :=
  ∃ directory ∈ directories, l = directory.place here ++ [manifestName] ∨
    l = directory.place here ++ [lockName]

/-- Two builds of one configuration, with the names of their temporary directories. -/
structure Pairing where
  config : Config
  project : Path
  unseen : Unseen
  here : Location
  name : String
  name' : String

namespace Pairing

def projects (z : Pairing) : List Path := Build.projects z.config z.project

def named (z : Pairing) : Prop := z.config.host ≠ none

/-- How the files at a place in the temporary directories have to be related. -/
def LikeAt [Depths] (z : Pairing) (below : List String) (bytes bytes' : List UInt8) : Prop :=
  if below = [manifestName] then SameManifest z.unseen z.named bytes bytes' else bytes' = bytes

end Pairing

/-- What two disks have at a place is of the same kind, and files are related. -/
inductive Twin (like : List UInt8 → List UInt8 → Prop) :
    Option Disk.Entry → Option Disk.Entry → Prop
  | none : Twin like none none
  | directory : Twin like (some .directory) (some .directory)
  | file {bytes bytes' : List UInt8} (h : like bytes bytes') :
    Twin like (some (.file bytes)) (some (.file bytes'))

/-- Two disks that differ, outside temporary directories, at most on the way to the output and in
what the states of the projects leave open. -/
structure SameOutside [Depths] (z : Pairing) (d d' : Disk) : Prop where
  directories : ∀ l, ¬ Temporary z.here l → d.lookup l = some .directory →
    d'.lookup l = some .directory
  outside : ∀ l, ¬ Temporary z.here l → ¬ Delivered z.config.out z.here l →
    ¬ IsInput z.projects z.here l →
    d'.lookup l = d.lookup l
  state : ∀ directory ∈ z.projects, SameState z.unseen d d' z.here directory

/-- Two disks that are the same to tools that work for a build. -/
structure Alike [Depths] (z : Pairing) (d d' : Disk) : Prop extends SameOutside z d d' where
  inside : ∀ below, Twin (z.LikeAt below) (d.lookup (z.here ++ z.name :: below))
    (d'.lookup (z.here ++ z.name' :: below))

/-- The behaviour of the tools of a build: they keep to the temporary directory, and on two disks
that are alike they do the same in it. -/
structure Steady [Depths] (kit : Kit τ) (config : Config) (project : Path) (unseen : Unseen) :
    Prop where
  keeps : KeepsInside kit
  repeats : ∀ task : Task, task.Down → ∀ name name', IsTemporary name → IsTemporary name' →
    ∀ here s d d', Alike ⟨config, project, unseen, here, name, name'⟩ d d' →
      ∀ output, (kit.tools (task.command kit name) here s d).1 = .finished output →
        (kit.tools (task.command kit name') here s d').1 = .finished output ∧
        (kit.tools (task.command kit name') here s d').2.1 =
          (kit.tools (task.command kit name) here s d).2.1 ∧
        ∀ below, Twin (Pairing.LikeAt ⟨config, project, unseen, here, name, name'⟩ below)
          ((kit.tools (task.command kit name) here s d).2.2.lookup (here ++ name :: below))
          ((kit.tools (task.command kit name') here s d').2.2.lookup (here ++ name' :: below))

/-! The same path in two temporary directories -/

/-- Two answers of the disks: both good, and related, or both bad for the same cause. -/
inductive Answers {α β : Type} (rel : α → β → Prop) :
    Except Disk.Fault α → Except Disk.Fault β → Prop
  | ok {a : α} {b : β} (h : rel a b) : Answers rel (.ok a) (.ok b)
  | error {f f' : Disk.Fault} (h : f.cause = f'.cause) : Answers rel (.error f) (.error f')

section Disks

variable {d d' : Disk} {base base' : Location} {like : List String → List UInt8 → List UInt8 → Prop}

theorem walk_twin (h : ∀ below, Twin (like below) (d.lookup (base ++ below))
    (d'.lookup (base' ++ below))) {segments : List String} (hdown : ".." ∉ segments) :
    d'.walk base' segments = (d.walk base segments).map fun _ => base' ++ segments := by
  induction segments generalizing base base' like with
  | nil => simp [Disk.walk, Except.map]
  | cons s r ih =>
    have hs : s ≠ ".." := by
      rintro rfl
      simp at hdown
    have hr : ".." ∉ r := fun hm => hdown (List.mem_cons_of_mem s hm)
    have hbase := h []
    rw [List.append_nil, List.append_nil] at hbase
    have hnext : ∀ below, Twin (like (s :: below)) (d.lookup (base ++ [s] ++ below))
        (d'.lookup (base' ++ [s] ++ below)) := fun below => by
      simpa using h (s :: below)
    have hrest := ih hnext hr
    rw [Disk.walk, Disk.walk]
    cases hd : d.lookup base with
    | none =>
      rw [hd] at hbase
      generalize d'.lookup base' = e' at hbase ⊢
      cases hbase
      rfl
    | some entry =>
      rw [hd] at hbase
      generalize d'.lookup base' = e' at hbase ⊢
      cases hbase with
      | file _ => rfl
      | directory =>
        simp only [hs, if_false]
        by_cases hlong : s.utf8ByteSize > Disk.nameLimit
        · simp only [hlong, if_true]
          rfl
        · simp only [hlong, if_false]
          rw [hrest, List.append_assoc, List.singleton_append]

variable {here : Location} {name name' : String} {below : List String}

/-- Two disks with twin directories where the program runs. -/
structure Rooted (like : List String → List UInt8 → List UInt8 → Prop) (d d' : Disk)
    (here : Location) (name name' : String) : Prop where
  left : d.lookup here = some .directory
  right : d'.lookup here = some .directory
  inside : ∀ below, Twin (like below) (d.lookup (here ++ name :: below))
    (d'.lookup (here ++ name' :: below))

theorem locate_twin (h : Rooted like d d' here name name') (hm : Disk.Modest (name :: below))
    (hm' : Disk.Modest (name' :: below)) :
    d'.locate here ⟨0, name' :: below⟩ =
      (d.locate here ⟨0, name :: below⟩).map fun _ => here ++ name' :: below := by
  have hdown : ".." ∉ below := fun hmem => hm.down (List.mem_cons_of_mem name hmem)
  have hname : name ≠ ".." := fun he => hm.down (by simp [he])
  have hname' : name' ≠ ".." := fun he => hm'.down (by simp [he])
  have hinside : ∀ r, Twin (like r) (d.lookup (here ++ [name] ++ r))
      (d'.lookup (here ++ [name'] ++ r)) := fun r => by
    simpa using h.inside r
  have hwalk := walk_twin hinside hdown
  have hfirst := Disk.walk_cons d below h.left (hm.walkable name (by simp))
  have hfirst' := Disk.walk_cons d' below h.right (hm'.walkable name' (by simp))
  rw [Disk.follow, if_neg hname] at hfirst
  rw [Disk.follow, if_neg hname'] at hfirst'
  rw [Disk.locate_eq, Disk.locate_eq, hm.objection?_eq_none (by simp),
    hm'.objection?_eq_none (by simp)]
  have hstart : ∀ segments, Path.start here ⟨0, segments⟩ = here := fun _ => rfl
  simp only [hstart]
  rw [hfirst, hfirst', hwalk, List.append_assoc, List.singleton_append]

theorem place_temporary (hm : Disk.Modest (name :: below)) :
    Path.place here ⟨0, name :: below⟩ = here ++ name :: below :=
  Path.place_down here hm.down

theorem find?_twin (h : Rooted like d d' here name name') (hm : Disk.Modest (name :: below))
    (hm' : Disk.Modest (name' :: below)) :
    Answers (Twin (like below)) (d.find? here ⟨0, name :: below⟩)
      (d'.find? here ⟨0, name' :: below⟩) := by
  have hlocate := locate_twin h hm hm'
  unfold Disk.find?
  rw [hlocate]
  cases hl : d.locate here ⟨0, name :: below⟩ with
  | ok l =>
    obtain ⟨_, rfl⟩ := Disk.leads_of_locate hl
    rw [place_temporary hm]
    exact .ok (h.inside below)
  | error cause =>
    cases cause with
    | nameTooLong => exact .error rfl
    | _ => exact .ok .none

theorem isFile_twin (h : Rooted like d d' here name name') (hm : Disk.Modest (name :: below))
    (hm' : Disk.Modest (name' :: below)) :
    Answers (fun a b => b = a) (d.isFile here ⟨0, name :: below⟩)
      (d'.isFile here ⟨0, name' :: below⟩) := by
  have hfind := find?_twin h hm hm'
  unfold Disk.isFile
  generalize d.find? here ⟨0, name :: below⟩ = a at hfind ⊢
  generalize d'.find? here ⟨0, name' :: below⟩ = a' at hfind ⊢
  cases hfind with
  | error hcause => exact .error hcause
  | ok htwin => cases htwin <;> exact .ok rfl

theorem isDirectory_twin (h : Rooted like d d' here name name') (hm : Disk.Modest (name :: below))
    (hm' : Disk.Modest (name' :: below)) :
    Answers (fun a b => b = a) (d.isDirectory here ⟨0, name :: below⟩)
      (d'.isDirectory here ⟨0, name' :: below⟩) := by
  have hfind := find?_twin h hm hm'
  unfold Disk.isDirectory
  generalize d.find? here ⟨0, name :: below⟩ = a at hfind ⊢
  generalize d'.find? here ⟨0, name' :: below⟩ = a' at hfind ⊢
  cases hfind with
  | error hcause => exact .error hcause
  | ok htwin => cases htwin <;> exact .ok rfl

theorem read_twin (h : Rooted like d d' here name name') (hm : Disk.Modest (name :: below))
    (hm' : Disk.Modest (name' :: below)) :
    Answers (like below) (d.read here ⟨0, name :: below⟩)
      (d'.read here ⟨0, name' :: below⟩) := by
  have hlocate := locate_twin h hm hm'
  unfold Disk.read
  rw [hlocate]
  cases hl : d.locate here ⟨0, name :: below⟩ with
  | ok l =>
    obtain ⟨_, rfl⟩ := Disk.leads_of_locate hl
    rw [place_temporary hm]
    have hentry := h.inside below
    simp only [Except.map]
    generalize d.lookup (here ++ name :: below) = e at hentry ⊢
    generalize d'.lookup (here ++ name' :: below) = e' at hentry ⊢
    cases hentry with
    | none => exact .error rfl
    | directory => exact .error rfl
    | file hlike => exact .ok hlike
  | error cause => exact .error rfl

/-- Both disks have been changed, in twin directories only, and these still are twins. -/
structure Kept (like : List String → List UInt8 → List UInt8 → Prop) (d d' : Disk)
    (here : Location) (name name' : String) (e e' : Disk) : Prop where
  rooted : Rooted like e e' here name name'
  left : ∀ l, ¬ Inside name here l → e.lookup l = d.lookup l
  right : ∀ l, ¬ Inside name' here l → e'.lookup l = d'.lookup l

theorem Rooted.kept (h : Rooted like d d' here name name') :
    Kept like d d' here name name' d d' :=
  ⟨h, fun _ _ => rfl, fun _ _ => rfl⟩

theorem put_twin (h : Rooted like d d' here name name') (below : List String)
    {entry entry' : Disk.Entry}
    (hentry : Twin (like below) (some entry) (some entry')) :
    Kept like d d' here name name' (d.put (here ++ name :: below) entry)
      (d'.put (here ++ name' :: below) entry') := by
  have hleft : ∀ l, ¬ Inside name here l → _ := fun l => lookup_put_outside d entry below
  have hright : ∀ l, ¬ Inside name' here l → _ := fun l =>
    lookup_put_outside d' entry' below
  refine ⟨⟨?_, ?_, fun r => ?_⟩, hleft, hright⟩
  · rw [hleft here (not_inside_here name here), h.left]
  · rw [hright here (not_inside_here name' here), h.right]
  · by_cases hr : below = r
    · subst hr
      rw [Disk.lookup_put_self d entry (by simp), Disk.lookup_put_self d' entry' (by simp)]
      exact hentry
    · rw [Disk.lookup_put_ne d entry (by simpa using hr),
        Disk.lookup_put_ne d' entry' (by simpa using hr)]
      exact h.inside r

theorem parent_twin (h : Rooted like d d' here name name') (below : List String) :
    ∃ like', Twin like' (d.lookup (here ++ name :: below).dropLast)
      (d'.lookup (here ++ name' :: below).dropLast) := by
  cases below with
  | nil =>
    refine ⟨fun _ _ => True, ?_⟩
    rw [List.dropLast_concat, List.dropLast_concat, h.left, h.right]
    exact .directory
  | cons s r =>
    refine ⟨like (s :: r).dropLast, ?_⟩
    rw [List.dropLast_append_of_ne_nil (by simp), List.dropLast_append_of_ne_nil (by simp),
      List.dropLast_cons_cons, List.dropLast_cons_cons]
    exact h.inside _

theorem make_twin (h : Rooted like d d' here name name') (below : List String) {p p' : Path}
    {e e' : Disk} (hmade : Kept like d d' here name name' e e') :
    Answers (Kept like d d' here name name')
      (match d.lookup (here ++ name :: below).dropLast with
        | some .directory => .ok e
        | some (.file _) => .error ⟨.notADirectory, p⟩
        | none => .error ⟨.missing, p⟩)
      (match d'.lookup (here ++ name' :: below).dropLast with
        | some .directory => .ok e'
        | some (.file _) => .error ⟨.notADirectory, p'⟩
        | none => .error ⟨.missing, p'⟩) := by
  obtain ⟨like', hparent⟩ := parent_twin h below
  generalize d.lookup (here ++ name :: below).dropLast = a at hparent ⊢
  generalize d'.lookup (here ++ name' :: below).dropLast = a' at hparent ⊢
  cases hparent with
  | none => exact .error rfl
  | directory => exact .ok hmade
  | file _ => exact .error rfl

theorem write_twin (h : Rooted like d d' here name name') (hm : Disk.Modest (name :: below))
    (hm' : Disk.Modest (name' :: below)) {bytes bytes' : List UInt8}
    (hbytes : like below bytes bytes') :
    Answers (Kept like d d' here name name') (d.write here ⟨0, name :: below⟩ bytes)
      (d'.write here ⟨0, name' :: below⟩ bytes') := by
  have hput := put_twin h below (.file hbytes)
  unfold Disk.write
  rw [locate_twin h hm hm']
  cases hl : d.locate here ⟨0, name :: below⟩ with
  | error cause => exact .error rfl
  | ok l =>
    obtain ⟨_, rfl⟩ := Disk.leads_of_locate hl
    rw [place_temporary hm]
    have hentry := h.inside below
    simp only [Except.map]
    generalize d.lookup (here ++ name :: below) = a at hentry ⊢
    generalize d'.lookup (here ++ name' :: below) = a' at hentry ⊢
    cases hentry with
    | none => exact make_twin h below hput
    | directory => exact .error rfl
    | file _ => exact .ok hput

theorem makeDirectory_twin (h : Rooted like d d' here name name')
    (hm : Disk.Modest (name :: below)) (hm' : Disk.Modest (name' :: below)) :
    Answers (Kept like d d' here name name') (d.makeDirectory here ⟨0, name :: below⟩)
      (d'.makeDirectory here ⟨0, name' :: below⟩) := by
  have hput := put_twin h below .directory
  unfold Disk.makeDirectory
  rw [locate_twin h hm hm']
  cases hl : d.locate here ⟨0, name :: below⟩ with
  | error cause => exact .error rfl
  | ok l =>
    obtain ⟨_, rfl⟩ := Disk.leads_of_locate hl
    rw [place_temporary hm]
    have hentry := h.inside below
    simp only [Except.map]
    generalize d.lookup (here ++ name :: below) = a at hentry ⊢
    generalize d'.lookup (here ++ name' :: below) = a' at hentry ⊢
    cases hentry with
    | none => exact make_twin h below hput
    | directory => exact .error rfl
    | file _ => exact .error rfl

theorem acceptDirectory_twin (h : Rooted like d d' here name name')
    (hm : Disk.Modest (name :: below)) (hm' : Disk.Modest (name' :: below)) :
    Answers (Kept like d d' here name name') (d.acceptDirectory here ⟨0, name :: below⟩)
      (d'.acceptDirectory here ⟨0, name' :: below⟩) := by
  have hmake := makeDirectory_twin h hm hm'
  have hthere := isDirectory_twin h hm hm'
  unfold Disk.acceptDirectory
  generalize d.makeDirectory here ⟨0, name :: below⟩ = a at hmake ⊢
  generalize d'.makeDirectory here ⟨0, name' :: below⟩ = a' at hmake ⊢
  cases hmake with
  | ok hkept => exact .ok hkept
  | error hcause =>
    rename_i f f'
    dsimp only
    rw [hcause]
    by_cases hmissing : f'.cause = .missing
    · simp only [hmissing, if_true]
      exact .error hcause
    · simp only [hmissing, if_false]
      generalize d.isDirectory here ⟨0, name :: below⟩ = b at hthere ⊢
      generalize d'.isDirectory here ⟨0, name' :: below⟩ = b' at hthere ⊢
      cases hthere with
      | error hcause' => exact .error hcause'
      | ok hsame =>
        subst hsame
        rename_i there
        cases there with
        | true => exact .ok h.kept
        | false => exact .error hcause

end Disks

/-! Worlds with twin directories -/

def isSmall (below : List String) : Bool :=
  below.all (fun s => s != ".." && s.toList.all fun c => 0 < c.toNat && c.toNat < 128) &&
    Disk.span below ≤ 50

/-- The name of a temporary directory, with room left for names below it. -/
structure Roomy (name : String) : Prop where
  temporary : IsTemporary name
  short : name.length ≤ 200

theorem Roomy.modest {name : String} (h : Roomy name) {below : List String}
    (hsmall : isSmall below = true) : Disk.Modest (name :: below) := by
  simp only [isSmall, Bool.and_eq_true, List.all_eq_true, decide_eq_true_eq] at hsmall
  obtain ⟨hplain, hshort⟩ := hsmall
  have hroom := h.short
  refine ⟨List.forall_mem_cons.2 ⟨fun c hc => ?_, fun s hs c hc => (hplain s hs).2 c hc⟩, ?_, ?_⟩
  · rcases h.temporary.chars c hc with hdigit | hletter
    · simp only [Char.isDigit, Bool.and_eq_true, decide_eq_true_eq, UInt32.le_iff_toNat_le] at hdigit
      obtain ⟨hlow, hhigh⟩ := hdigit
      change 48 ≤ c.toNat at hlow
      change c.toNat ≤ 57 at hhigh
      omega
    · have hstem : ∀ c ∈ "anywhereify-minify-".toList, 0 < c.toNat ∧ c.toNat < 128 := by decide
      exact hstem c hletter
  · rw [Disk.span]
    omega
  · refine up_notMem_of_temporary h.temporary fun hmem => ?_
    simpa using (hplain ".." hmem).1

/-- The second world is the first one with changes in one temporary directory. -/
structure SameBut (name : String) (w v : World τ σ) : Prop where
  here : v.here = w.here
  temporaries : v.temporaries = w.temporaries
  kept : ∀ l, ¬ Inside name w.here l → v.disk.lookup l = w.disk.lookup l

theorem SameBut.refl (name : String) (w : World τ σ) : SameBut name w w := ⟨rfl, rfl, fun _ _ => rfl⟩

theorem SameBut.trans {name : String} {w v u : World τ σ} (h : SameBut name w v)
    (h' : SameBut name v u) : SameBut name w u := by
  refine ⟨h'.here.trans h.here, h'.temporaries.trans h.temporaries, fun l hl => ?_⟩
  rw [h'.kept l (by rw [h.here]; exact hl), h.kept l hl]

theorem SameBut.of_agrees {name : String} {w v : World τ σ} (h : World.Agrees w v) :
    SameBut name w v := ⟨h.here, h.temporaries, fun l _ => by rw [h.disk]⟩

/-- Two builds have made their temporary directories. -/
structure Start [Depths] (z : Pairing) (w w' : World τ σ) : Prop where
  here : w.here = z.here
  here' : w'.here = z.here
  roomy : Roomy z.name
  roomy' : Roomy z.name'
  standing : w.disk.lookup z.here = some .directory
  alike : Alike z w.disk w'.disk
  apart : ∀ directory ∈ z.projects, ∀ l ∈ directory.trail z.here, ¬ Temporary z.here l

/-- The worlds that two builds reach side by side. -/
structure Twins [Depths] (z : Pairing) (w₀ w₀' w w' : World τ σ) : Prop where
  rooted : Rooted z.LikeAt w.disk w'.disk z.here z.name z.name'
  tools : w'.tools = w.tools
  left : SameBut z.name w₀ w
  right : SameBut z.name' w₀' w'

variable {z : Pairing} {w₀ w₀' : World τ σ}

theorem not_temporary_here (here : Location) : ¬ Temporary here here := by
  rintro ⟨name, _, h⟩
  exact not_inside_here name here h

theorem Start.twins (h : Start z w₀ w₀') (htools : w₀'.tools = w₀.tools) :
    Twins z w₀ w₀' w₀ w₀' :=
  ⟨⟨h.standing, h.alike.directories _ (not_temporary_here _) h.standing, h.alike.inside⟩, htools,
    .refl _ _, .refl _ _⟩

theorem not_temporary_child {here l : Location} {s : String} (h : ¬ Temporary here l)
    (hs : ¬ IsTemporary s) : ¬ Temporary here (l ++ [s]) := by
  rintro ⟨name, hname, hin⟩
  rcases List.prefix_concat_iff.1 hin with he | hin
  · obtain ⟨_, he⟩ := List.append_inj' he rfl
    obtain rfl := List.singleton_inj.1 he
    exact hs hname
  · exact h ⟨name, hname, hin⟩

def fileNames : List String := [manifestName, lockName, outputName, recordName]

theorem not_temporary_file (name : String) (h : name ∈ fileNames) : ¬ IsTemporary name := by
  have hdotted : ∀ name ∈ fileNames, '.' ∈ name.toList := by decide
  exact fun htemporary => htemporary.ne_of_char (hdotted name h) (by decide) (by decide) rfl

theorem mem_trail_file {here : Location} {p : Path} {name : String} (hname : name ∈ fileNames)
    {l : Location} (hl : l ∈ (p.child name).trail here) :
    l ∈ p.trail here ∨ l = p.place here ++ [name] := by
  have hplain : ∀ name ∈ fileNames,
      '/' ∉ name.toList ∧ name ≠ "" ∧ name ≠ "." ∧ name ≠ ".." := by decide
  obtain ⟨hslash, hempty, hdot, hup⟩ := hplain name hname
  rw [Path.child_eq hslash hempty hdot, Path.trail, Path.way_append,
    Path.place_append here p hup] at hl
  exact (List.mem_append.1 hl).imp_right List.mem_singleton.1

theorem trail_file {here : Location} {p : Path} (name : String) (hname : name ∈ fileNames)
    (hp : ∀ l ∈ p.trail here, ¬ Temporary here l) :
    ∀ l ∈ (p.child name).trail here, ¬ Temporary here l := by
  intro l hl
  rcases mem_trail_file hname hl with hl | rfl
  · exact hp l hl
  · exact not_temporary_child (hp _ Path.place_mem_trail) (not_temporary_file name hname)

theorem SameFile.congr {unseen : Unseen} {d d' e e' : Disk} {here : Location} {p : Path}
    (h : SameFile unseen d d' here p) (hleft : ∀ l ∈ p.trail here, e.lookup l = d.lookup l)
    (hright : ∀ l ∈ p.trail here, e'.lookup l = d'.lookup l) : SameFile unseen e e' here p := by
  unfold SameFile contents
  rw [Disk.read_congr hleft, Disk.read_congr hright]
  exact h

theorem SameState.congr {unseen : Unseen} {d d' e e' : Disk} {here : Location} {directory : Path}
    (h : SameState unseen d d' here directory)
    (hapart : ∀ l ∈ directory.trail here, ¬ Temporary here l)
    (hleft : ∀ l, ¬ Temporary here l → e.lookup l = d.lookup l)
    (hright : ∀ l, ¬ Temporary here l → e'.lookup l = d'.lookup l) :
    SameState unseen e e' here directory := by
  have hmanifest := trail_file manifestName (by decide) hapart
  have hlock := trail_file lockName (by decide) hapart
  refine ⟨⟨?_, ?_⟩, h.manifestFile.congr (fun l hl => hleft l (hmanifest l hl)) fun l hl =>
    hright l (hmanifest l hl), h.lockFile.congr (fun l hl => hleft l (hlock l hl)) fun l hl =>
    hright l (hlock l hl)⟩
  · rw [Disk.document?_congr fun l hl => hleft l (hmanifest l hl),
      Disk.document?_congr fun l hl => hright l (hmanifest l hl)]
    exact h.dependencies
  · rw [Disk.document?_congr fun l hl => hleft l (hlock l hl),
      Disk.document?_congr fun l hl => hright l (hlock l hl)]
    exact h.lock

section Side

variable {w w' : World τ σ} (hs : Start z w₀ w₀')

include hs

theorem Twins.here (h : Twins z w₀ w₀' w w') : w.here = z.here :=
  h.left.here.trans hs.here

theorem Twins.here' (h : Twins z w₀ w₀' w w') : w'.here = z.here :=
  h.right.here.trans hs.here'

theorem Twins.kept (h : Twins z w₀ w₀' w w') {l : Location} (hl : ¬ Temporary z.here l) :
    w.disk.lookup l = w₀.disk.lookup l := by
  refine h.left.kept l fun hin => hl ?_
  rw [hs.here] at hin
  exact hin.temporary hs.roomy.temporary

theorem Twins.kept' (h : Twins z w₀ w₀' w w') {l : Location} (hl : ¬ Temporary z.here l) :
    w'.disk.lookup l = w₀'.disk.lookup l := by
  refine h.right.kept l fun hin => hl ?_
  rw [hs.here'] at hin
  exact hin.temporary hs.roomy'.temporary

theorem Twins.alike (h : Twins z w₀ w₀' w w') : Alike z w.disk w'.disk where
  inside := h.rooted.inside
  directories l hl hdir := by
    rw [h.kept' hs hl]
    exact hs.alike.directories l hl ((h.kept hs hl).symm.trans hdir)
  outside l hl hout hin := by
    rw [h.kept' hs hl, h.kept hs hl, hs.alike.outside l hl hout hin]
  state directory hd := (hs.alike.state directory hd).congr (hs.apart directory hd)
    (fun _ hl => h.kept hs hl) fun _ hl => h.kept' hs hl

theorem Twins.change (h : Twins z w₀ w₀' w w') {e e' : Disk}
    (hkept : Kept z.LikeAt w.disk w'.disk z.here z.name z.name' e e') :
    Twins z w₀ w₀' { w with disk := e } { w' with disk := e' } where
  rooted := hkept.rooted
  tools := h.tools
  left := h.left.trans ⟨rfl, rfl, fun l hl => hkept.left l (by rw [← h.here hs]; exact hl)⟩
  right := h.right.trans ⟨rfl, rfl, fun l hl => hkept.right l (by rw [← h.here' hs]; exact hl)⟩

omit hs in
theorem Twins.agrees {v v' : World τ σ} (h : Twins z w₀ w₀' w w') (hv : World.Agrees w v)
    (hv' : World.Agrees w' v') : Twins z w₀ w₀' v v' where
  rooted := by
    rw [hv.disk, hv'.disk]
    exact h.rooted
  tools := by rw [hv.tools, hv'.tools, h.tools]
  left := h.left.trans (.of_agrees hv)
  right := h.right.trans (.of_agrees hv')

end Side

/-! Making temporary directories -/

/-- Nothing is at a place in the directory of that name, which is still to be made. -/
def IsFree (d : Disk) (here : Location) (name : String) : Prop :=
  ∀ below, d.lookup (here ++ name :: below) = none

def withTemporary (w : World τ σ) (name : String) : World τ σ :=
  { w with temporaries := w.temporaries + 1, disk := w.disk.put (w.here ++ [name]) .directory }

theorem perform_makeTemporary {stem : String} {w : World τ σ}
    (hroomy : Roomy (stem ++ Text.decimal (w.temporaries + 1)))
    (hdir : w.disk.lookup w.here = some .directory)
    (hfree : IsFree w.disk w.here (stem ++ Text.decimal (w.temporaries + 1))) :
    (makeTemporary stem).perform w = (.ok ⟨0, [stem ++ Text.decimal (w.temporaries + 1)]⟩,
      withTemporary w (stem ++ Text.decimal (w.temporaries + 1))) := by
  have htries : temporaryTries = 9999 + 1 := by rw [temporaryTries]
  rw [makeTemporary, htries, makeTemporaryWithin, perform_bind, perform_get]
  dsimp only
  rw [perform_bind, perform_set]
  dsimp only
  rw [ofString_temporary hroomy.temporary]
  generalize stem ++ Text.decimal (w.temporaries + 1) = name at hroomy hfree
  have hmodest : Disk.Modest [name] := hroomy.modest (by decide)
  have hleads : w.disk.Leads w.here ⟨0, [name]⟩ := by
    refine Disk.leads_iff.2 ⟨fun m hm => ?_, hmodest.objection?_eq_none (by simp),
      hmodest.walkable⟩
    obtain rfl := List.mem_singleton.1 hm
    exact hdir
  have hmake : w.disk.makeDirectory w.here ⟨0, [name]⟩ =
      .ok (w.disk.put (w.here ++ [name]) .directory) := by
    refine Disk.makeDirectory_eq_ok_iff.2 ?_
    rw [place_temporary hmodest, List.dropLast_concat]
    exact ⟨hleads, hfree [], hdir, rfl⟩
  rw [perform_bind, perform_attempt, perform_change]
  dsimp only
  rw [hmake]
  rfl

theorem lookup_withTemporary {w : World τ σ} {name : String} {l : Location}
    (h : ¬ Inside name w.here l) : (withTemporary w name).disk.lookup l = w.disk.lookup l :=
  lookup_put_outside w.disk .directory [] h

theorem SameOutside.start {w w' : World τ σ} (h : SameOutside z w.disk w'.disk)
    (hhere : w.here = z.here) (hhere' : w'.here = z.here) (hroomy : Roomy z.name)
    (hroomy' : Roomy z.name') (hstanding : w.disk.lookup z.here = some .directory)
    (hapart : ∀ directory ∈ z.projects, ∀ l ∈ directory.trail z.here, ¬ Temporary z.here l)
    (hfree : IsFree w.disk z.here z.name) (hfree' : IsFree w'.disk z.here z.name') :
    Start z (withTemporary w z.name) (withTemporary w' z.name') := by
  have hleft : ∀ l, ¬ Temporary z.here l →
      (withTemporary w z.name).disk.lookup l = w.disk.lookup l := by
    intro l hl
    refine lookup_withTemporary fun hin => hl ?_
    rw [hhere] at hin
    exact hin.temporary hroomy.temporary
  have hright : ∀ l, ¬ Temporary z.here l →
      (withTemporary w' z.name').disk.lookup l = w'.disk.lookup l := by
    intro l hl
    refine lookup_withTemporary fun hin => hl ?_
    rw [hhere'] at hin
    exact hin.temporary hroomy'.temporary
  refine ⟨hhere, hhere', hroomy, hroomy', ?_, ⟨⟨?_, ?_, ?_⟩, fun below => ?_⟩, hapart⟩
  · rw [hleft _ (not_temporary_here _), hstanding]
  · intro l hl hdir
    rw [hright l hl]
    exact h.directories l hl ((hleft l hl).symm.trans hdir)
  · intro l hl hout hin
    rw [hright l hl, hleft l hl, h.outside l hl hout hin]
  · exact fun directory hd => (h.state directory hd).congr (hapart directory hd) hleft hright
  · rw [withTemporary, withTemporary, hhere, hhere']
    cases below with
    | nil =>
      rw [Disk.lookup_put_self _ _ (by simp), Disk.lookup_put_self _ _ (by simp)]
      exact .directory
    | cons s r =>
      rw [Disk.lookup_put_ne _ _ (by simp), Disk.lookup_put_ne _ _ (by simp), hfree (s :: r),
        hfree' (s :: r)]
      exact .none

end ExportBundle.Build
