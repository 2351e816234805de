import ExportBundle.Build.Run
import ExportBundle.Proofs.Act

/-! Where a build changes the disk. Tools are taken to keep to the temporary directory that they are
given; then a build changes nothing but temporary directories, the way to its output directory, the
output and the record. -/

namespace ExportBundle.Build

open Act

variable {depths : Depths} {τ σ : Type} {α : Type}

def IsTemporary (name : String) : Prop :=
  ∃ count, name = "anywhereify-" ++ Text.decimal count ∨
    name = "anywhereify-minify-" ++ Text.decimal count

def projectName (count : Nat) : String := "anywhereify-" ++ Text.decimal count

def minifyName (count : Nat) : String := "anywhereify-minify-" ++ Text.decimal count

def Inside (name : String) (here l : Location) : Prop := here ++ [name] <+: l

def Temporary (here l : Location) : Prop := ∃ name, IsTemporary name ∧ Inside name here l

/-- The places that lead to the output and the record, and these themselves. -/
def Delivered (out : Path) (here l : Location) : Prop :=
  l ∈ out.trail here ∨ l = out.place here ++ [outputName] ∨ l = out.place here ++ [recordName]

/-- What a build has its tools do, each time with one temporary directory. -/
inductive Task where
  | install (packages : List String) (below : List String)
  | list
  | listHost (host : Path)
  | bundle (externals : List String)
  | minify

/-- The command of a task for the temporary directory of the given name. -/
def Task.command (kit : Kit τ) (name : String) : Task → Command
  | .install packages below => kit.npm.installCommand packages ⟨0, name :: below⟩
  | .list => kit.npm.listCommand ⟨0, [name]⟩
  | .listHost host => kit.npm.listCommand host
  | .bundle externals =>
    ⟨Browserify.words kit.browserify.runner [⟨0, [name, "stub.js"]⟩] externals
      ⟨0, [name, "bundle.js"]⟩, some (kit.browserify.directory.getD ⟨0, [name]⟩),
      kit.browserify.timeout⟩
  | .minify =>
    ⟨Minifier.words kit.minifier.runner ⟨0, [name, "input.js"]⟩ ⟨0, [name, "output.js"]⟩,
      some ⟨0, [name]⟩, kit.minifier.timeout⟩

def Task.Down : Task → Prop
  | .install _ below => ".." ∉ below
  | _ => True

/-- Working for a temporary directory, the tools change nothing outside a region around it. -/
structure Works (kit : Kit τ) (name : String) (region : Location → Location → Prop) : Prop where
  temporary : IsTemporary name
  inside : ∀ here l, Inside name here l → region here l
  keeps : ∀ task : Task, task.Down → ∀ here s d, d.lookup here = some .directory →
    ∀ l, l = here ∨ ¬ region here l →
      (kit.tools (task.command kit name) here s d).2.2.lookup l = d.lookup l

/-- The tools keep to a region, whatever temporary directory they work for. -/
def KeepsTo (kit : Kit τ) (region : Location → Location → Prop) : Prop :=
  ∀ name, IsTemporary name → Works kit name region

/-- The tools change nothing outside the temporary directory that they work for. -/
def KeepsInside (kit : Kit τ) : Prop :=
  ∀ task : Task, task.Down → ∀ name, IsTemporary name → ∀ here s d l, ¬ Inside name here l →
    (kit.tools (task.command kit name) here s d).2.2.lookup l = d.lookup l

section Names

variable {name : String}

theorem IsTemporary.chars (h : IsTemporary name) :
    ∀ c ∈ name.toList, c.isDigit = true ∨ c ∈ "anywhereify-minify-".toList := by
  intro c hc
  obtain ⟨count, rfl | rfl⟩ := h
  all_goals
    rw [String.toList_append, List.mem_append] at hc
    rcases hc with hc | hc
    · right
      revert c
      decide
    · rw [Text.decimal, String.toList_ofList] at hc
      exact .inl (Nat.isDigit_of_mem_toDigits (by decide) (by decide) hc)

theorem IsTemporary.ne_of_char (h : IsTemporary name) {s : String} {c : Char} (hc : c ∈ s.toList)
    (hdigit : c.isDigit = false) (hletter : c ∉ "anywhereify-minify-".toList) : name ≠ s := by
  rintro rfl
  rcases h.chars c hc with hd | hl
  · rw [hd] at hdigit
    cases hdigit
  · exact hletter hl

theorem IsTemporary.ne_up (h : IsTemporary name) : name ≠ ".." := by
  exact h.ne_of_char (c := '.') (by decide) (by decide) (by decide)

theorem IsTemporary.segment (h : IsTemporary name) :
    '/' ∉ name.toList ∧ name ≠ "" ∧ name ≠ "." := by
  refine ⟨fun hmem => ?_, ?_, ?_⟩
  · exact h.ne_of_char hmem (by decide) (by decide) rfl
  · rintro rfl
    obtain ⟨count, h | h⟩ := h
    all_goals
      have hlist := congrArg String.toList h
      simp at hlist
  · exact h.ne_of_char (c := '.') (by decide) (by decide) (by decide)

theorem ofString_temporary (h : IsTemporary name) : Path.ofString name = ⟨0, [name]⟩ := by
  obtain ⟨hslash, hempty, hdot⟩ := h.segment
  exact Path.ofString_of_notMem hslash hempty hdot

theorem up_notMem_of_temporary (h : IsTemporary name) {below : List String} (hb : ".." ∉ below) :
    ".." ∉ name :: below := by
  intro hmem
  rcases List.mem_cons.1 hmem with he | he
  · exact h.ne_up he.symm
  · exact hb he

theorem IsTemporary.place (h : IsTemporary name) (here : Location) :
    Path.place here ⟨0, [name]⟩ = here ++ [name] :=
  Path.place_down here (up_notMem_of_temporary h (by simp))

theorem not_inside_of_above {here l : Location} (name : String) (hl : l <+: here) :
    ¬ Inside name here l := by
  intro h
  have hlen := (List.IsPrefix.trans h hl).length_le
  rw [List.length_append, List.length_singleton] at hlen
  omega

theorem not_inside_here (name : String) (here : Location) : ¬ Inside name here here :=
  not_inside_of_above name (List.prefix_refl here)

theorem lookup_put_outside (d : Disk) (entry : Disk.Entry) (below : List String)
    {here l : Location} (h : ¬ Inside name here l) :
    (d.put (here ++ name :: below) entry).lookup l = d.lookup l := by
  apply Disk.lookup_put_ne
  rintro rfl
  exact h ⟨below, by simp⟩

theorem Inside.temporary {here l : Location} (hname : IsTemporary name) (h : Inside name here l) :
    Temporary here l := ⟨name, hname, h⟩

theorem KeepsInside.works {kit : Kit τ} (h : KeepsInside kit) (hname : IsTemporary name) :
    Works kit name (Inside name) := by
  refine ⟨hname, fun _ _ hin => hin, fun task hdown here s d _ l hl => ?_⟩
  refine h task hdown name hname here s d l ?_
  rcases hl with rfl | hl
  · exact not_inside_here name l
  · exact hl

theorem KeepsInside.keepsTo {kit : Kit τ} (h : KeepsInside kit) : KeepsTo kit Temporary := by
  refine fun name hname => ⟨hname, fun _ _ hin => hin.temporary hname,
    fun task hdown here s d hdir l hl => (h.works hname).keeps task hdown here s d hdir l ?_⟩
  exact hl.imp_right fun hl hin => hl (hin.temporary hname)

theorem Works.widen {kit : Kit τ} {region : Location → Location → Prop} {act : Act τ σ α}
    (h : Works kit name region) (hact : Moves (World.ChangedIn (Inside name)) act) :
    Moves (World.ChangedIn region) act :=
  hact.mono fun _ _ hchanged => hchanged.mono h.inside

end Names

/-! Actions that leave the files as they are -/

section Still

theorem perform_lift {ε : Type} (f : ε → Failure) (x : Except ε α) (w : World τ σ) :
    (lift f x : Act τ σ α).perform w = (x.mapError f, w) := by
  cases x <;> rfl

theorem lift_eq_ok_iff {ε : Type} {f : ε → Failure} {x : Except ε α} {w v : World τ σ} {a : α} :
    (lift f x).perform w = (.ok a, v) ↔ x = .ok a ∧ v = w := by
  rw [perform_lift, Prod.mk.injEq]
  cases x <;> simp [Except.mapError, eq_comm]

theorem lift_eq_error_iff {ε : Type} {f : ε → Failure} {x : Except ε α} {w v : World τ σ}
    {e : Failure} :
    (lift f x).perform w = (.error e, v) ↔ ∃ m, x = .error m ∧ e = f m ∧ v = w := by
  rw [perform_lift, Prod.mk.injEq]
  cases x <;> simp [Except.mapError, eq_comm]

theorem moves_lift {rel : World τ σ → World τ σ → Prop} [IsPreorder _ rel] {ε : Type}
    (f : ε → Failure) (x : Except ε α) : Moves rel (lift f x) :=
  .of_eq fun w => by rw [perform_lift]

theorem moves_announce (kit : Kit τ) (step : Step) :
    Moves World.Agrees (kit.announce step : Act τ σ Unit) :=
  (moves_report step).bind fun _ => moves_lift _ _

theorem perform_announce (kit : Kit τ) (step : Step) (w : World τ σ) :
    (kit.announce step : Act τ σ Unit).perform w =
      ((kit.listener step).mapError id, { w with steps := w.steps ++ [step] }) := by
  rw [Kit.announce, perform_bind, perform_report]
  dsimp only
  rw [perform_lift]

theorem announce_eq_ok_iff {kit : Kit τ} {step : Step} {w v : World τ σ} {u : Unit} :
    (kit.announce step).perform w = (.ok u, v) ↔
      kit.listener step = .ok () ∧ v = { w with steps := w.steps ++ [step] } := by
  rw [perform_announce, Prod.mk.injEq]
  cases kit.listener step <;> simp [Except.mapError, eq_comm]

theorem perform_compile [Identifier.Supply σ] (entries : List Json.Value) (w : World τ σ) :
    (compile entries : Act τ σ _).perform w =
      ((Export.compile (Json.Value.arr entries) w.names).1.mapError .spec,
        { w with names := (Export.compile (Json.Value.arr entries) w.names).2 }) := by
  rw [compile, perform_bind, perform_get]
  dsimp only
  rcases Export.compile (Json.Value.arr entries) w.names with ⟨result, names⟩
  dsimp only
  rw [perform_bind, perform_set]
  dsimp only
  rw [perform_lift]

theorem compile_eq_ok_iff [Identifier.Supply σ] {entries : List Json.Value}
    {nodes : List Export.Node} {w v : World τ σ} :
    (compile entries).perform w = (.ok nodes, v) ↔
      (Export.compile (Json.Value.arr entries) w.names).1 = .ok nodes ∧
        v = { w with names := (Export.compile (Json.Value.arr entries) w.names).2 } := by
  rw [perform_compile, Prod.mk.injEq]
  cases (Export.compile (Json.Value.arr entries) w.names).1 <;> simp [Except.mapError, eq_comm]

theorem moves_compile [Identifier.Supply σ] (entries : List Json.Value) :
    Moves World.Agrees (compile entries : Act τ σ _) := by
  intro w
  rw [perform_compile]
  exact ⟨rfl, rfl, rfl, rfl⟩

theorem moves_fingerprint {rel : World τ σ → World τ σ → Prop} [IsPreorder _ rel]
    (v : Json.Value) : Moves rel (fingerprint v) := moves_lift _ _

theorem moves_projectState {rel : World τ σ → World τ σ → Prop} [IsPreorder _ rel]
    (directory : Path) : Moves rel (projectState directory) := by
  refine (moves_readJson? _).bind fun manifest => (moves_readJson? _).bind fun lock =>
    (moves_lift _ _).bind fun dependencies => ?_
  split
  · exact (moves_pure _).bind fun _ => moves_pure _
  · exact (Moves.map _ (moves_fingerprint _)).bind fun _ => moves_pure _

theorem moves_inputDocument {rel : World τ σ → World τ σ → Prop} [IsPreorder _ rel]
    (i : Inputs) : Moves rel (inputDocument i) := by
  refine Moves.bind (moves_projectState _) fun (dependencies, lock) => ?_
  dsimp only
  split
  · exact (moves_pure _).bind fun _ => moves_pure _
  · refine Moves.bind (moves_projectState _) fun (dependencies, lock) => ?_
    exact (moves_pure _).bind fun _ => moves_pure _

theorem moves_assemble (bundle : String) (nodes : List Export.Node) :
    Moves World.Agrees (assemble bundle nodes : Act τ σ String) :=
  (moves_warnAll _).bind fun _ => moves_pure _

theorem moves_loadRecord [Depths] {rel : World τ σ → World τ σ → Prop} [IsPreorder _ rel]
    (hwarn : ∀ l, Moves rel (warnAll l)) (out : Path) : Moves rel (loadRecord out) := by
  refine (moves_inquire _).bind fun there => ?_
  split
  · exact moves_pure _
  · refine (moves_readText _).bind fun text => ?_
    split
    · exact (hwarn _).bind fun _ => moves_pure _
    · exact moves_fail _
    · split
      · exact (hwarn _).bind fun _ => moves_pure _
      · exact moves_pure _

theorem moves_lookup {rel : World τ σ → World τ σ → Prop} [IsPreorder _ rel]
    (hwarn : ∀ l, Moves rel (warnAll l)) (out : Path) (inputs : Json.Value) :
    Moves rel (lookup out inputs) := by
  refine (moves_loadRecord hwarn out).bind fun record => ?_
  split
  · exact moves_pure _
  · refine (moves_inquire _).bind fun there => ?_
    split
    · exact moves_pure _
    · exact (moves_fingerprint _).bind fun _ => moves_pure _

end Still

/-! Actions in a temporary directory -/

section Inside

variable {kit : Kit τ} {name : String} {region : Location → Location → Prop}

theorem child_manifest (p : Path) :
    p.child manifestName = ⟨p.slashes, p.segments ++ [manifestName]⟩ :=
  Path.child_eq (by decide) (by decide) (by decide)

theorem child_lock (p : Path) : p.child lockName = ⟨p.slashes, p.segments ++ [lockName]⟩ :=
  Path.child_eq (by decide) (by decide) (by decide)

theorem child_output (p : Path) : p.child outputName = ⟨p.slashes, p.segments ++ [outputName]⟩ :=
  Path.child_eq (by decide) (by decide) (by decide)

theorem child_record (p : Path) : p.child recordName = ⟨p.slashes, p.segments ++ [recordName]⟩ :=
  Path.child_eq (by decide) (by decide) (by decide)

theorem child_stub (name : String) :
    Path.child ⟨0, [name]⟩ "stub.js" = ⟨0, [name, "stub.js"]⟩ :=
  Path.child_eq (by decide) (by decide) (by decide)

theorem child_bundle (name : String) :
    Path.child ⟨0, [name]⟩ "bundle.js" = ⟨0, [name, "bundle.js"]⟩ :=
  Path.child_eq (by decide) (by decide) (by decide)

theorem child_input (name : String) :
    Path.child ⟨0, [name]⟩ "input.js" = ⟨0, [name, "input.js"]⟩ :=
  Path.child_eq (by decide) (by decide) (by decide)

theorem child_minified (name : String) :
    Path.child ⟨0, [name]⟩ "output.js" = ⟨0, [name, "output.js"]⟩ :=
  Path.child_eq (by decide) (by decide) (by decide)

theorem inside_down (here : Location) (hname : IsTemporary name) {below : List String}
    (hb : ".." ∉ below) : Inside name here (Path.place here ⟨0, name :: below⟩) := by
  rw [Path.place_down here (up_notMem_of_temporary hname hb)]
  exact ⟨below, by simp⟩

theorem moves_makeDirectories_inside (hname : IsTemporary name) (below : List String)
    (hb : ".." ∉ below) :
    Moves (World.ChangedIn (Inside name))
      (makeDirectories ⟨0, name :: below⟩ : Act τ σ Unit) := by
  refine moves_makeDirectories fun here q hs hq => ?_
  obtain ⟨slashes, segments⟩ := q
  obtain rfl : slashes = 0 := hs
  cases segments with
  | nil => exact .inl rfl
  | cons s r =>
    obtain ⟨rest, hrest⟩ := hq
    rw [List.cons_append, List.cons.injEq] at hrest
    obtain ⟨rfl, rfl⟩ := hrest
    have hr : ".." ∉ r := fun hm => hb (List.mem_append_left _ hm)
    exact .inr (inside_down here hname hr)

theorem moves_writeBytes_inside (hname : IsTemporary name) (below : List String)
    (hb : ".." ∉ below) (bytes : List UInt8) :
    Moves (World.ChangedIn (Inside name)) (writeBytes ⟨0, name :: below⟩ bytes : Act τ σ Unit) :=
  moves_writeBytes bytes fun here => inside_down here hname hb

theorem moves_remove_inside (hname : IsTemporary name) :
    Moves (World.ChangedIn (Inside name)) (remove ⟨0, [name]⟩ : Act τ σ Unit) := by
  refine moves_remove (fun here => ?_) fun here l hl => ?_
  · rw [hname.place]
    exact not_inside_here name here
  · rw [hname.place] at hl
    exact hl

theorem moves_task (hworks : Works kit name region) (task : Task)
    (hdown : task.Down) :
    Moves (World.ChangedIn region)
      (run kit.tools (task.command kit name) : Act τ σ Output) := by
  exact moves_run (hworks.keeps task hdown)

theorem moves_taskChecked (hworks : Works kit name region) (task : Task)
    (hdown : task.Down) :
    Moves (World.ChangedIn region)
      (runChecked kit.tools (task.command kit name) : Act τ σ Output) := by
  refine (moves_task hworks task hdown).bind fun output => ?_
  split
  · exact (moves_fail _).bind fun _ => moves_pure _
  · exact moves_pure _

theorem moves_install (hworks : Works kit name region)
    (packages : List String) {below : List String} (hb : ".." ∉ below) :
    Moves (World.ChangedIn region)
      (kit.npm.install kit.tools packages ⟨0, name :: below⟩ : Act τ σ Unit) := by
  unfold Npm.install
  split
  · exact moves_pure _
  · exact (moves_taskChecked hworks (.install packages below) hb).bind
      fun _ => moves_pure _

theorem moves_list (hworks : Works kit name region) (task : Task)
    (hdown : task.Down) {directory : Path}
    (htask : task.command kit name = kit.npm.listCommand directory) :
    Moves (World.ChangedIn region) (kit.npm.list kit.tools directory : Act τ σ _) := by
  unfold Npm.list
  rw [← htask]
  refine (moves_task hworks task hdown).bind fun output => ?_
  dsimp only
  split
  · exact moves_fail _
  · exact moves_fail _
  · split
    · exact moves_pure _
    · exact moves_fail _

theorem moves_readLock {rel : World τ σ → World τ σ → Prop} [IsPreorder _ rel] (label : String)
    (p : Path) : Moves rel (readLock label p) := by
  refine (moves_inquire _).bind fun there => ?_
  split
  · exact (moves_readJson _).bind fun _ => moves_lift _ _
  · exact (moves_readJson _).bind fun _ => moves_lift _ _

theorem moves_packageName {rel : World τ σ → World τ σ → Prop} [IsPreorder _ rel] (p : Path) :
    Moves rel (packageName p) := by
  refine (moves_readJson? _).bind fun manifest => ?_
  split
  · exact moves_pure _
  · exact (moves_lift _ _).bind fun _ => moves_pure _

theorem child_label {label : String} (hlabel : label ∈ [hostLabel, bundleLabel]) (name : String) :
    Path.child ⟨0, [name]⟩ label = ⟨0, [name, label]⟩ := by
  have hplain : ∀ label ∈ [hostLabel, bundleLabel],
      '/' ∉ label.toList ∧ label ≠ "" ∧ label ≠ "." := by decide
  obtain ⟨hslash, hempty, hdot⟩ := hplain label hlabel
  exact Path.child_eq hslash hempty hdot

theorem label_ne_up {label : String} (hlabel : label ∈ [hostLabel, bundleLabel]) : ".." ≠ label := by
  have hup : ∀ label ∈ [hostLabel, bundleLabel], ".." ≠ label := by decide
  exact hup label hlabel

theorem moves_captureSide (hworks : Works kit name region) {label : String}
    (hlabel : label ∈ [hostLabel, bundleLabel]) (dependencies : List String) :
    Moves (World.ChangedIn region)
      (captureSide (kit.npm.installer kit.tools) label dependencies ⟨0, [name]⟩ :
        Act τ σ Snapshot) := by
  have hup := label_ne_up hlabel
  unfold captureSide
  simp only [child_label hlabel, child_manifest]
  refine (hworks.widen (moves_makeDirectories_inside hworks.temporary [label]
    (by simpa using hup))).bind fun _ => ?_
  refine (hworks.widen (moves_writeBytes_inside hworks.temporary [label, manifestName] ?_ _)).bind
    fun _ => ?_
  · simpa [manifestName] using hup
  refine (moves_install hworks dependencies (by simpa using hup)).bind fun _ => ?_
  refine (moves_inquire _).bind fun there => ?_
  split
  · exact moves_readLock label _
  · exact moves_pure _

theorem moves_capture (hworks : Works kit name region) (host : Path) :
    Moves (World.ChangedIn region)
      (capture (kit.npm.installer kit.tools) host ⟨0, [name]⟩ ⟨0, [name]⟩ : Act τ σ _) := by
  refine (moves_packageName _).bind fun own => ?_
  refine (moves_list hworks (.listHost host) trivial rfl).bind fun hostNames => ?_
  refine (moves_list hworks .list trivial rfl).bind fun projectNames => ?_
  refine (moves_captureSide hworks (by simp) _).bind fun hostSide => ?_
  exact (moves_captureSide hworks (by simp) _).bind fun projectSide => moves_pure _

theorem moves_resolveExternals (hworks : Works kit name region)
    (host : Option Path) :
    Moves (World.ChangedIn region) (resolveExternals kit host ⟨0, [name]⟩ : Act τ σ _) := by
  unfold resolveExternals
  split
  · exact moves_pure _
  · exact (moves_capture hworks _).bind fun _ => moves_lift _ _

theorem moves_scaffold {rel : World τ σ → World τ σ → Prop} [IsPreorder _ rel]
    {project directory : Path} (hmake : Moves rel (makeDirectories directory : Act τ σ Unit))
    (hmanifest : ∀ bytes, Moves rel (writeBytes (directory.child manifestName) bytes :
      Act τ σ Unit))
    (hstub : ∀ bytes, Moves rel (writeBytes (directory.child "stub.js") bytes : Act τ σ Unit))
    (nodes : List Export.Node) : Moves rel (scaffold project directory nodes : Act τ σ Path) := by
  have hwrite : Moves rel (do
      writeBytes (directory.child manifestName) (← readBytes (project.child manifestName))
      writeText (directory.child "stub.js") (Export.loadSource nodes ++ "\n")
      return directory.child "stub.js" : Act τ σ Path) :=
    (moves_inquire _).bind fun _ => (hmanifest _).bind fun _ => (hstub _).bind fun _ => moves_pure _
  refine hmake.bind fun _ => (moves_inquire _).bind fun there => ?_
  split
  · exact (moves_fail _).bind fun _ => hwrite
  · exact hwrite

theorem moves_scaffold_inside (hname : IsTemporary name) (project : Path)
    (nodes : List Export.Node) :
    Moves (World.ChangedIn (Inside name)) (scaffold project ⟨0, [name]⟩ nodes : Act τ σ Path) := by
  refine moves_scaffold (moves_makeDirectories_inside hname [] (by decide)) ?_ ?_ nodes
  · rw [child_manifest]
    exact moves_writeBytes_inside hname [manifestName] (by decide)
  · rw [child_stub]
    exact moves_writeBytes_inside hname ["stub.js"] (by decide)

theorem scaffold_writes {project directory stub : Path} {nodes : List Export.Node}
    {w v : World τ σ} (h : (scaffold project directory nodes).perform w = (.ok stub, v)) :
    stub = directory.child "stub.js" ∧
      ∃ u, (writeText stub (Export.loadSource nodes ++ "\n")).perform u = (.ok (), v) := by
  obtain ⟨_, _, _, h⟩ := bind_eq_ok_iff.1 h
  obtain ⟨_, _, _, h⟩ := bind_eq_ok_iff.1 h
  have hend {u : World τ σ} (h : (do
      writeBytes (directory.child manifestName) (← readBytes (project.child manifestName))
      writeText (directory.child "stub.js") (Export.loadSource nodes ++ "\n")
      return directory.child "stub.js" : Act τ σ Path).perform u = (.ok stub, v)) :
      stub = directory.child "stub.js" ∧
        ∃ u, (writeText stub (Export.loadSource nodes ++ "\n")).perform u = (.ok (), v) := by
    obtain ⟨_, _, _, h⟩ := bind_eq_ok_iff.1 h
    obtain ⟨_, u, _, h⟩ := bind_eq_ok_iff.1 h
    obtain ⟨⟨⟩, _, hwrite, h⟩ := bind_eq_ok_iff.1 h
    cases h
    exact ⟨rfl, u, hwrite⟩
  split at h
  · obtain ⟨_, _, hfail, _⟩ := bind_eq_ok_iff.1 h
    cases hfail
  · exact hend h

theorem scaffold_eq_ok {project p : Path} {nodes : List Export.Node} {w v : World τ σ}
    (h : (scaffold project ⟨0, [name]⟩ nodes).perform w = (.ok p, v)) :
    p = Path.child ⟨0, [name]⟩ "stub.js" := (scaffold_writes h).1

theorem moves_bundle (hworks : Works kit name region)
    (externals : List String) :
    Moves (World.ChangedIn region) (kit.browserify.bundle kit.tools
      [Path.child ⟨0, [name]⟩ "stub.js"] externals (Path.child ⟨0, [name]⟩ "bundle.js") :
        Act τ σ String) := by
  rw [child_stub, child_bundle]
  exact (moves_taskChecked hworks (.bundle externals) trivial).bind fun _ =>
    (moves_readText _).bind fun _ => moves_pure _

/-! What a build produces, in parts -/

/-- The temporary project with its packages, as it is before the host is looked at. -/
def furnish (kit : Kit τ) (project : Path) (nodes : List Export.Node) (directory : Path) :
    Act τ σ Path := do
  kit.announce .scaffolding
  let stub ← scaffold project directory nodes
  kit.announce (.installing (Export.Node.packages nodes).length)
  kit.npm.install kit.tools (Export.Node.packages nodes) directory
  kit.announce .resolving
  return stub

def bundled (kit : Kit τ) (nodes : List Export.Node) (directory stub : Path)
    (externals : List String) : Act τ σ String := do
  kit.announce .bundling
  let bundle ← kit.browserify.bundle kit.tools [stub] externals (directory.child "bundle.js")
  assemble bundle nodes

def reduced (kit : Kit τ) (config : Config) (source : String) : Act τ σ String := do
  if config.minify then
    kit.announce .minifying
    kit.minifier.minify kit.tools source
  else return source

theorem produce_eq_bind (kit : Kit τ) (config : Config) (project : Path)
    (nodes : List Export.Node) (directory : Path) :
    (produce kit config project nodes directory : Act τ σ _) = do
      let stub ← furnish kit project nodes directory
      let externals ← resolveExternals kit config.host directory
      let source ← bundled kit nodes directory stub externals
      return (externals, ← reduced kit config source) := by
  cases h : config.minify <;>
    simp only [produce, furnish, bundled, reduced, h, bind_assoc, pure_bind, if_true,
      Bool.false_eq_true, if_false]

theorem moves_furnish (hworks : Works kit name region) (project : Path)
    (nodes : List Export.Node) :
    Moves (World.ChangedIn region) (furnish kit project nodes ⟨0, [name]⟩ : Act τ σ Path) := by
  have hannounce : ∀ step, Moves (World.ChangedIn region) (kit.announce step :
      Act τ σ Unit) := fun step => (moves_announce kit step).changedIn
  refine (hannounce _).bind fun _ => ?_
  refine (hworks.widen (moves_scaffold_inside hworks.temporary project nodes)).bind fun stub => ?_
  refine (hannounce _).bind fun _ => ?_
  refine (moves_install hworks _ (by simp)).bind fun _ => ?_
  exact (hannounce _).bind fun _ => moves_pure _

theorem furnish_eq_ok {project stub : Path} {nodes : List Export.Node} {w v : World τ σ}
    (h : (furnish kit project nodes ⟨0, [name]⟩).perform w = (.ok stub, v)) :
    stub = ⟨0, [name, "stub.js"]⟩ := by
  obtain ⟨_, _, _, h₁⟩ := bind_eq_ok_iff.1 h
  obtain ⟨stub', _, hscaffold, h₂⟩ := bind_eq_ok_iff.1 h₁
  obtain ⟨_, _, _, h₃⟩ := bind_eq_ok_iff.1 h₂
  obtain ⟨_, _, _, h₄⟩ := bind_eq_ok_iff.1 h₃
  obtain ⟨_, _, _, hreturn⟩ := bind_eq_ok_iff.1 h₄
  cases hreturn
  rw [scaffold_eq_ok hscaffold, child_stub]

theorem moves_bundled (hworks : Works kit name region)
    (nodes : List Export.Node) (externals : List String) :
    Moves (World.ChangedIn region)
      (bundled kit nodes ⟨0, [name]⟩ ⟨0, [name, "stub.js"]⟩ externals : Act τ σ String) := by
  refine (moves_announce kit _).changedIn.bind fun _ => ?_
  rw [← child_stub]
  exact (moves_bundle hworks externals).bind fun bundle =>
    (moves_assemble bundle nodes).changedIn

theorem moves_minifyIn (hworks : Works kit name region) (source : String) :
    Moves (World.ChangedIn region)
      (kit.minifier.minifyIn kit.tools source ⟨0, [name]⟩ : Act τ σ String) := by
  unfold Minifier.minifyIn
  simp only [child_input, child_minified]
  refine (hworks.widen (moves_writeBytes_inside hworks.temporary ["input.js"] (by decide) _)).bind
    fun _ => ?_
  refine (moves_taskChecked hworks .minify trivial).attempt.bind fun result => ?_
  split
  · exact (moves_readText _).bind fun _ => moves_pure _
  · exact moves_fail _
  · exact moves_fail _

end Inside

/-! Delivery -/

theorem place_output (out : Path) (here : Location) :
    (out.child outputName).place here = out.place here ++ [outputName] := by
  rw [child_output, Path.place_append here out (by decide)]

theorem place_record (out : Path) (here : Location) :
    (out.child recordName).place here = out.place here ++ [recordName] := by
  rw [child_record, Path.place_append here out (by decide)]

theorem parent_output (out : Path) : (out.child outputName).parent = out := by
  simp [child_output, Path.parent]

theorem parent_record (out : Path) : (out.child recordName).parent = out := by
  simp [child_record, Path.parent]

theorem moves_makeDirectories_out (out : Path) :
    Moves (World.ChangedIn (Delivered out)) (makeDirectories out : Act τ σ Unit) :=
  moves_makeDirectories fun _ _ hs hq => .inr (.inl (Path.place_mem_trail_of_prefix hs hq))

section Deliver

variable {rel : World τ σ → World τ σ → Prop} [IsPreorder _ rel]

theorem moves_saveRecord {out : Path} (hmake : Moves rel (makeDirectories out : Act τ σ Unit))
    (hrecord : ∀ bytes, Moves rel (writeBytes (out.child recordName) bytes : Act τ σ Unit))
    (inputs : Json.Value) (externals : List String) :
    Moves rel (saveRecord out inputs externals : Act τ σ Record) := by
  refine (moves_fingerprint _).bind fun digest => ?_
  refine (Moves.of_eq fun _ => rfl : Moves _ (get : Act τ σ _)).bind fun w => ?_
  exact hmake.bind fun _ => (hrecord _).bind fun _ => moves_pure _

theorem moves_deliver {kit : Kit τ} {config : Config}
    (hannounce : ∀ step, Moves rel (kit.announce step : Act τ σ Unit))
    (hmake : Moves rel (makeDirectories config.out : Act τ σ Unit))
    (houtput : ∀ bytes, Moves rel (writeBytes (config.out.child outputName) bytes : Act τ σ Unit))
    (hrecord : ∀ bytes, Moves rel (writeBytes (config.out.child recordName) bytes : Act τ σ Unit))
    (inputs : Json.Value) (externals : List String) (source : String) :
    Moves rel (deliver kit config inputs externals source : Act τ σ Unit) := by
  refine (hannounce _).bind fun _ => ?_
  rw [parent_output]
  refine hmake.bind fun _ => (houtput _).bind fun _ => ?_
  exact (moves_saveRecord hmake hrecord inputs externals).bind fun _ => moves_pure _

end Deliver

theorem moves_deliver_out [Depths] (kit : Kit τ) (config : Config) (inputs : Json.Value)
    (externals : List String) (source : String) :
    Moves (World.ChangedIn (Delivered config.out))
      (deliver kit config inputs externals source : Act τ σ Unit) :=
  moves_deliver (fun step => (moves_announce kit step).changedIn)
    (moves_makeDirectories_out _)
    (fun _ => moves_writeBytes _ fun here => .inr (.inl (place_output _ here)))
    (fun _ => moves_writeBytes _ fun here => .inr (.inr (place_record _ here)))
    inputs externals source

theorem stays_deliver [Depths] (kit : Kit τ) (config : Config) (inputs : Json.Value)
    (externals : List String) (source : String) :
    Moves World.Stays (deliver kit config inputs externals source : Act τ σ Unit) :=
  moves_deliver (fun step => (moves_announce kit step).mono fun _ _ => World.Agrees.stays)
    (stays_makeDirectories _) (stays_writeBytes _) (stays_writeBytes _) inputs externals source

end ExportBundle.Build
