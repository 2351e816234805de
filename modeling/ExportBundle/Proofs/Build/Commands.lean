import ExportBundle.Identifier.Counter
import ExportBundle.Proofs.Build.Rebuild
import ExportBundle.Proofs.Export.Reading
import ExportBundle.Tool.Rehearsal

/-! The commands of a build and their order. An action that runs commands is followed by the row of
those that it would run if nothing went wrong; wherever it stops, the first ones of the row were
run. Main statement: a new build installs, lists and installs both sides, bundles and minifies, in
this order, and a build that is served from a record runs nothing. -/

namespace ExportBundle

open Act

variable {depths : Depths} {τ σ α β : Type}

namespace World

def Silent (w v : World τ σ) : Prop := v.commands = w.commands

instance : IsPreorder (World τ σ) Silent where
  refl _ := rfl
  trans _ _ _ h h' := h'.trans h

end World

namespace Act

def after (act : Act τ σ α) (w : World τ σ) : World τ σ := (act.perform w).2

def answer? (act : Act τ σ α) (w : World τ σ) : Option α := (act.perform w).1.toOption

theorem after_of_perform {act : Act τ σ α} {w v : World τ σ} {r : Except Failure α}
    (h : act.perform w = (r, v)) : act.after w = v := congrArg Prod.snd h

theorem answer?_of_perform {act : Act τ σ α} {w v : World τ σ} {a : α}
    (h : act.perform w = (.ok a, v)) : act.answer? w = some a := by
  rw [answer?, h]
  rfl

/-- The commands that an action runs are the first ones of the row, and all of them when it ends
well. -/
def Issues (w : World τ σ) (act : Act τ σ α) (row : List Command) : Prop :=
  ∃ ran, (act.after w).commands = w.commands ++ ran ∧ ran <+: row ∧
    ∀ a, (act.perform w).1 = .ok a → ran = row

section Rules

variable {w : World τ σ} {act : Act τ σ α} {f : α → Act τ σ β} {row : List Command}

theorem Issues.bind {more : List Command} (h : Issues w act row)
    (hf : ∀ a u, act.perform w = (.ok a, u) → Issues u (f a) more) :
    Issues w (act >>= f) (row ++ more) := by
  obtain ⟨ran, hran, hfirst, hall⟩ := h
  unfold Issues after at *
  rw [perform_bind]
  rcases hact : act.perform w with ⟨e | a, u⟩
  · rw [hact] at hran
    exact ⟨ran, hran, hfirst.trans (List.prefix_append row more), nofun⟩
  · rw [hact] at hran hall
    obtain ⟨ran', hran', hfirst', hall'⟩ := hf a u hact
    obtain rfl := hall a rfl
    dsimp only at hran ⊢
    refine ⟨ran ++ ran', ?_, (List.prefix_append_right_inj ran).2 hfirst', fun b hb => ?_⟩
    · rw [hran', hran, List.append_assoc]
    · rw [hall' b hb]

theorem Issues.bind_exists {ι : Type} [Nonempty ι] {more : ι → List Command} (h : Issues w act row)
    (hf : ∀ a u, act.perform w = (.ok a, u) → ∃ i, Issues u (f a) (more i)) :
    ∃ i, Issues w (act >>= f) (row ++ more i) := by
  rcases hact : act.perform w with ⟨e | a, u⟩
  · refine ⟨Classical.arbitrary ι, h.bind fun a u ha => ?_⟩
    rw [hact] at ha
    cases ha
  · obtain ⟨i, hi⟩ := hf a u hact
    refine ⟨i, h.bind fun a' u' ha => ?_⟩
    rw [hact] at ha
    cases ha
    exact hi

theorem Moves.issues (h : Moves World.Silent act) (w : World τ σ) : Issues w act [] :=
  ⟨[], (h w).trans (List.append_nil _).symm, List.prefix_rfl, fun _ _ => rfl⟩

theorem Issues.bind_silent (h : Issues w act row) (hf : ∀ a, Moves World.Silent (f a)) :
    Issues w (act >>= f) row := by
  have hbind := h.bind fun a u _ => (hf a).issues u
  rwa [List.append_nil] at hbind

theorem Moves.bind_issues (h : Moves World.Silent act)
    (hf : ∀ a u, act.perform w = (.ok a, u) → Issues u (f a) row) : Issues w (act >>= f) row :=
  (h.issues w).bind hf

theorem Issues.ensuring (h : Issues w act row) {last : Act τ σ Unit}
    (hlast : Moves World.Silent last) : Issues w (ensuring act last) row := by
  obtain ⟨ran, hran, hfirst, hall⟩ := h
  exact ⟨ran, (hlast (act.after w)).trans hran, hfirst, hall⟩

/-- Whether an action is let fail makes no difference to the commands that it has run, if it runs
one in any case. -/
theorem Issues.attempt {c : Command} (h : (act.after w).commands = w.commands ++ [c]) :
    Issues w (attempt act) [c] := ⟨[c], h, List.prefix_rfl, fun _ _ => rfl⟩

end Rules

section Basic

theorem silent_change (update : Disk → Location → Except Disk.Fault Disk) :
    Moves World.Silent (change update : Act τ σ Unit) := by
  intro w
  rw [perform_change]
  cases update w.disk w.here <;> rfl

theorem silent_writeBytes (p : Path) (bytes : List UInt8) :
    Moves World.Silent (writeBytes p bytes : Act τ σ Unit) := silent_change _

theorem silent_warnAll (l : List Warning) : Moves World.Silent (warnAll l : Act τ σ Unit) :=
  fun _ => rfl

theorem silent_report (step : Step) : Moves World.Silent (report step : Act τ σ Unit) :=
  fun _ => rfl

theorem silent_makeDirectories (p : Path) :
    Moves World.Silent (makeDirectories p : Act τ σ Unit) := by
  refine moves_makeDirectoriesUpTo _ fun q _ _ w => ?_
  rw [perform_acceptDirectory]
  cases w.disk.acceptDirectory w.here q <;> rfl

theorem silent_makeTemporaryWithin (tries : Nat) (stem : String) :
    Moves World.Silent (makeTemporaryWithin tries stem : Act τ σ Path) := by
  induction tries with
  | zero => exact moves_fail _
  | succ tries ih =>
    intro w
    rw [makeTemporaryWithin, perform_bind, perform_get]
    dsimp only
    rw [perform_bind, perform_set]
    change World.Silent { w with temporaries := w.temporaries + 1 } _
    refine Moves.bind (silent_change _).attempt (fun result => ?_) _
    split
    · exact moves_pure _
    · exact ih
    · exact moves_fail _

theorem silent_makeTemporary (stem : String) :
    Moves World.Silent (makeTemporary stem : Act τ σ Path) :=
  silent_makeTemporaryWithin temporaryTries stem

theorem after_run (tools : Tools τ) (c : Command) (w : World τ σ) :
    ((run tools c : Act τ σ Output).after w).commands = w.commands ++ [c] := by
  rw [after, perform_run]
  rfl

theorem issues_run (tools : Tools τ) (c : Command) (w : World τ σ) :
    Issues w (run tools c : Act τ σ Output) [c] :=
  ⟨[c], after_run tools c w, List.prefix_rfl, fun _ _ => rfl⟩

theorem silent_demand (c : Command) (output : Output) :
    Moves World.Silent (do
      if output.code ≠ 0 then fail (.tool (.failed c output))
      return output : Act τ σ Output) := by
  split
  · exact (moves_fail _).bind fun _ => moves_pure _
  · exact moves_pure _

theorem issues_runChecked (tools : Tools τ) (c : Command) (w : World τ σ) :
    Issues w (runChecked tools c : Act τ σ Output) [c] :=
  (issues_run tools c w).bind_silent (silent_demand c)

theorem after_runChecked (tools : Tools τ) (c : Command) (w : World τ σ) :
    ((runChecked tools c : Act τ σ Output).after w).commands = w.commands ++ [c] := by
  have hran := after_run (σ := σ) tools c w
  unfold after runChecked at *
  rw [perform_bind]
  rcases hrun : (run tools c : Act τ σ Output).perform w with ⟨e | output, u⟩
  · rw [hrun] at hran
    exact hran
  · rw [hrun] at hran
    exact (silent_demand c output u).trans hran

end Basic

end Act

/-! The actions of a build -/

namespace Build

section Silent

theorem silent_announce (kit : Kit τ) (step : Step) :
    Moves World.Silent (kit.announce step : Act τ σ Unit) :=
  (silent_report step).bind fun _ => moves_lift _ _

theorem silent_scaffold (project directory : Path) (nodes : List Export.Node) :
    Moves World.Silent (scaffold project directory nodes : Act τ σ Path) :=
  moves_scaffold (silent_makeDirectories _) (silent_writeBytes _) (silent_writeBytes _) nodes

theorem silent_assemble (bundle : String) (nodes : List Export.Node) :
    Moves World.Silent (assemble bundle nodes : Act τ σ String) :=
  (silent_warnAll _).bind fun _ => moves_pure _

theorem silent_deliver (kit : Kit τ) (config : Config) (inputs : Json.Value)
    (externals : List String) (source : String) :
    Moves World.Silent (deliver kit config inputs externals source : Act τ σ Unit) :=
  moves_deliver (silent_announce kit) (silent_makeDirectories _) (silent_writeBytes _)
    (silent_writeBytes _) inputs externals source

theorem silent_finish (config : Config) (directory : Path) :
    Moves World.Silent (finish config directory : Act τ σ Unit) := by
  unfold finish
  split
  · exact moves_pure _
  · exact silent_change _

theorem silent_search [Depths] [Identifier.Supply σ] (kit : Kit τ) (config : Config)
    (project : Path) (force : Bool) :
    Moves World.Silent (search kit config project force : Act τ σ _) := by
  have hcompile : Moves World.Silent (compile config.entries : Act τ σ _) := by
    intro w
    rw [perform_compile]
    rfl
  have hknown (inputs : Json.Value) : Moves World.Silent (known force config.out inputs :
      Act τ σ _) := by
    unfold known
    split
    · exact moves_pure _
    · exact moves_lookup silent_warnAll _ _
  refine (silent_announce kit _).bind fun _ => hcompile.bind fun _ => ?_
  exact (moves_inputDocument _).bind fun inputs => (hknown inputs).bind fun _ => moves_pure _

end Silent

/-! The commands, word by word -/

section Words

variable (kit : Kit τ)

def installing (packages : List String) (directory : Path) : Command :=
  ⟨[kit.npm.program, "install", "--save", "--no-audit", "--no-fund"] ++ packages, some directory,
    kit.npm.timeout⟩

def listing (directory : Path) : Command :=
  ⟨[kit.npm.program, "ls", "--json", "--depth=0"], some directory, kit.npm.timeout⟩

/-- The stub is the only entry, and each external package is left out by an option of its own. -/
def bundling (name : String) (externals : List String) : Command where
  words := [kit.browserify.runner, "--yes", "browserify", name ++ "/stub.js"] ++
    externals.flatMap (fun package => ["-x", package]) ++ ["-o", name ++ "/bundle.js"]
  directory := some (kit.browserify.directory.getD ⟨0, [name]⟩)
  timeout := kit.browserify.timeout

def minifying (name : String) : Command where
  words := [kit.minifier.runner, "--yes", "babel-minify", name ++ "/input.js", "--out-file",
    name ++ "/output.js", "--mangle=false", "--regexpConstructors=false"]
  directory := some ⟨0, [name]⟩
  timeout := kit.minifier.timeout

theorem text_pair (name file : String) : Path.text ⟨0, [name, file]⟩ = name ++ "/" ++ file := by
  rw [← String.toList_inj]
  simp [Path.text]

theorem command_bundle (name : String) (externals : List String) :
    Task.command kit name (.bundle externals) = bundling kit name externals := by
  simp only [Task.command, Browserify.words, bundling, text_pair, List.map_cons, List.map_nil,
    String.append_assoc]
  rfl

theorem command_minify (name : String) : Task.command kit name .minify = minifying kit name := by
  simp only [Task.command, Minifier.words, minifying, text_pair, String.append_assoc]
  rfl

end Words

section Tasks

variable (kit : Kit τ) (w : World τ σ)

/-- Packages are installed into a directory, unless there are none. -/
def installs (packages : List String) (directory : Path) : List Command :=
  if packages.isEmpty then [] else [installing kit packages directory]

theorem issues_install (packages : List String) (directory : Path) :
    Issues w (kit.npm.install kit.tools packages directory : Act τ σ Unit)
      (installs kit packages directory) := by
  unfold Npm.install installs
  split
  · exact (moves_pure ()).issues w
  · exact (issues_runChecked kit.tools _ w).bind_silent fun _ => moves_pure _

theorem issues_list (directory : Path) :
    Issues w (kit.npm.list kit.tools directory : Act τ σ _) [listing kit directory] := by
  refine Issues.bind_silent (issues_run kit.tools _ w) fun output => ?_
  dsimp only
  split
  · exact moves_fail _
  · exact moves_fail _
  · split
    · exact moves_pure _
    · exact moves_fail _

theorem issues_captureSide (label : String) (dependencies : List String) (work : Path) :
    Issues w (captureSide (kit.npm.installer kit.tools) label dependencies work : Act τ σ _)
      (installs kit dependencies (work.child label)) := by
  refine (silent_makeDirectories _).bind_issues fun _ u _ => ?_
  refine (silent_writeBytes _ _).bind_issues fun _ u _ => ?_
  refine (issues_install kit u dependencies _).bind_silent fun _ => ?_
  refine (moves_inquire _).bind fun there => ?_
  split
  · exact moves_readLock _ _
  · exact moves_pure _

end Tasks

/-- What a build learns on its way: what is installed on either side, and what the host provides. -/
structure Findings where
  hostNames : List String
  projectNames : List String
  externals : List String

/-- The packages of a listing but for one, in the order of the listing. -/
def besides (own : Option String) (listing : List String) : List String :=
  listing.filter fun name => some name ≠ own

/-- What is found by listing the host and the temporary project and capturing both. -/
def compared [Depths] (kit : Kit τ) (host directory : Path) (w : World τ σ) : Findings :=
  let own := ((packageName directory).answer? w).join
  let hostListing := kit.npm.list kit.tools host
  let projectListing := kit.npm.list kit.tools directory
  let hostNames := besides own ((hostListing.answer? w).getD [])
  let w₁ := hostListing.after w
  let projectNames := besides own ((projectListing.answer? w₁).getD [])
  let w₂ := projectListing.after w₁
  let hostSide := captureSide (kit.npm.installer kit.tools) hostLabel hostNames directory
  let w₃ := hostSide.after w₂
  let projectSide := captureSide (kit.npm.installer kit.tools) bundleLabel projectNames directory
  let provided := do (externals (← hostSide.answer? w₂) (← projectSide.answer? w₃)).toOption
  ⟨hostNames, projectNames, provided.getD []⟩

def findings [Depths] (kit : Kit τ) (host : Option Path) (directory : Path) (w : World τ σ) :
    Findings :=
  match host with
  | none => ⟨[], [], []⟩
  | some host => compared kit host directory w

def comparison (kit : Kit τ) (host : Option Path) (name : String) (found : Findings) :
    List Command :=
  match host with
  | none => []
  | some host => [listing kit host, listing kit ⟨0, [name]⟩] ++
      installs kit found.hostNames ⟨0, [name, "super"]⟩ ++
      installs kit found.projectNames ⟨0, [name, "sub"]⟩

section Comparing

variable {kit : Kit τ} {host directory : Path} {w v u : World τ σ}

theorem answer?_packageName {own : Option String}
    (h : (packageName directory).perform w = (.ok own, v)) :
    v = w ∧ ((packageName directory).answer? w).join = own := by
  have hstill : Moves Eq (packageName directory : Act τ σ _) := moves_packageName directory
  have hw := hstill w
  rw [h] at hw
  rw [answer?_of_perform h]
  exact ⟨hw.symm, rfl⟩

theorem compared_eq {own : Option String} {hostListing projectListing : List String}
    (hown : ((packageName directory).answer? w).join = own)
    (hhost : (kit.npm.list kit.tools host).perform w = (.ok hostListing, u))
    (hproject : (kit.npm.list kit.tools directory).perform u = (.ok projectListing, v)) :
    let hostNames := besides own hostListing
    let projectNames := besides own projectListing
    let hostSide := captureSide (kit.npm.installer kit.tools) hostLabel hostNames directory
    let projectSide := captureSide (kit.npm.installer kit.tools) bundleLabel projectNames directory
    compared kit host directory w = ⟨hostNames, projectNames,
      (do (externals (← hostSide.answer? v)
        (← projectSide.answer? (hostSide.after v))).toOption : Option (List String)).getD []⟩ := by
  simp only [compared, hown, answer?_of_perform hhost, after_of_perform hhost,
    answer?_of_perform hproject, after_of_perform hproject, Option.getD_some]

theorem issues_capture (kit : Kit τ) (host : Path) (name : String) (w : World τ σ) :
    Issues w (capture (kit.npm.installer kit.tools) host ⟨0, [name]⟩ ⟨0, [name]⟩ : Act τ σ _)
      (comparison kit (some host) name (compared kit host ⟨0, [name]⟩ w)) := by
  refine (moves_packageName ⟨0, [name]⟩).bind_issues fun own u hown => ?_
  obtain ⟨rfl, hown⟩ := answer?_packageName hown
  have hrow (found : Findings) : comparison kit (some host) name found =
      [listing kit host] ++ ([listing kit ⟨0, [name]⟩] ++
        (installs kit found.hostNames (Path.child ⟨0, [name]⟩ hostLabel) ++
          installs kit found.projectNames (Path.child ⟨0, [name]⟩ bundleLabel))) := by
    rw [child_label (by simp), child_label (by simp)]
    simp [comparison, hostLabel, bundleLabel]
  rw [hrow]
  refine (issues_list kit u host).bind fun hostListing u₁ hhost => ?_
  refine (issues_list kit u₁ ⟨0, [name]⟩).bind fun projectListing u₂ hproject => ?_
  rw [compared_eq hown hhost hproject]
  refine (issues_captureSide kit u₂ hostLabel _ ⟨0, [name]⟩).bind fun hostSide u₃ _ => ?_
  exact (issues_captureSide kit u₃ bundleLabel _ ⟨0, [name]⟩).bind_silent fun _ => moves_pure _

theorem issues_resolveExternals (kit : Kit τ) (host : Option Path) (name : String)
    (w : World τ σ) :
    Issues w (resolveExternals kit host ⟨0, [name]⟩ : Act τ σ _)
      (comparison kit host name (findings kit host ⟨0, [name]⟩ w)) := by
  cases host with
  | none => exact (moves_pure []).issues w
  | some host => exact (issues_capture kit host name w).bind_silent fun _ => moves_lift _ _

theorem externals_findings {host : Option Path} {names : List String}
    (h : (resolveExternals kit host directory).perform w = (.ok names, v)) :
    (findings kit host directory w).externals = names := by
  cases host with
  | none =>
    cases h
    rfl
  | some host =>
    obtain ⟨sides, u, hcapture, hlift⟩ := bind_eq_ok_iff.1 h
    obtain ⟨hexternals, rfl⟩ := lift_eq_ok_iff.1 hlift
    obtain ⟨own, u₀, hown, h₁⟩ := bind_eq_ok_iff.1 hcapture
    obtain ⟨rfl, hown⟩ := answer?_packageName hown
    obtain ⟨hostListing, u₁, hhost, h₂⟩ := bind_eq_ok_iff.1 h₁
    obtain ⟨projectListing, u₂, hproject, h₃⟩ := bind_eq_ok_iff.1 h₂
    obtain ⟨hostSide, u₃, hhostSide, h₄⟩ := bind_eq_ok_iff.1 h₃
    obtain ⟨projectSide, u₄, hprojectSide, hreturn⟩ := bind_eq_ok_iff.1 h₄
    cases hreturn
    have hfound := compared_eq hown hhost hproject
    unfold besides at hfound
    dsimp only at hfound
    have hnames : externals hostSide projectSide = .ok names := hexternals
    rw [findings, hfound, after_of_perform hhostSide, answer?_of_perform hhostSide,
      Option.bind_eq_bind, Option.bind_some, answer?_of_perform hprojectSide]
    change ((externals hostSide projectSide).toOption).getD [] = names
    rw [hnames]
    rfl

end Comparing

section Producing

variable {kit : Kit τ} {config : Config} {project : Path} {nodes : List Export.Node}
  {name : String} {w v u : World τ σ}

/-- The commands of a new build in the temporary directory `name`, with `minifier` for the name of
the minifier's own one. -/
def commandsOf (kit : Kit τ) (config : Config) (packages : List String) (name minifier : String)
    (found : Findings) : List Command :=
  [installing kit packages ⟨0, [name]⟩] ++ comparison kit config.host name found ++
    [bundling kit name found.externals] ++ if config.minify then [minifying kit minifier] else []

theorem issues_furnish (kit : Kit τ) (project : Path) (nodes : List Export.Node)
    (directory : Path) (w : World τ σ) :
    Issues w (furnish kit project nodes directory)
      (installs kit (Export.Node.packages nodes) directory) := by
  refine (silent_announce kit _).bind_issues fun _ u₁ _ => ?_
  refine (silent_scaffold project directory nodes).bind_issues fun stub u₂ _ => ?_
  refine (silent_announce kit _).bind_issues fun _ u₃ _ => ?_
  refine (issues_install kit u₃ _ directory).bind_silent fun _ => ?_
  exact (silent_announce kit _).bind fun _ => moves_pure _

theorem issues_bundled (kit : Kit τ) (nodes : List Export.Node) (name : String)
    (externals : List String) (w : World τ σ) :
    Issues w (bundled kit nodes ⟨0, [name]⟩ ⟨0, [name, "stub.js"]⟩ externals)
      [bundling kit name externals] := by
  have hparent : Path.parent ⟨0, [name, "bundle.js"]⟩ = ⟨0, [name]⟩ := rfl
  rw [← command_bundle]
  refine (silent_announce kit _).bind_issues fun _ u _ => ?_
  rw [child_bundle]
  refine Issues.bind_silent ?_ fun bundle => silent_assemble bundle nodes
  rw [Browserify.bundle, hparent]
  exact Issues.bind_silent (issues_runChecked kit.tools _ u) fun _ =>
    (moves_readText _).bind fun _ => moves_pure _

theorem issues_minifyIn (kit : Kit τ) (source name : String) (w : World τ σ) :
    Issues w (kit.minifier.minifyIn kit.tools source ⟨0, [name]⟩ : Act τ σ String)
      [minifying kit name] := by
  rw [← command_minify]
  unfold Minifier.minifyIn
  simp only [child_input, child_minified]
  refine (silent_writeBytes _ _).bind_issues fun _ u _ => ?_
  refine (Issues.attempt (after_runChecked kit.tools _ u)).bind_silent fun result => ?_
  split
  · exact (moves_readText _).bind fun _ => moves_pure _
  · exact moves_fail _
  · exact moves_fail _

theorem issues_minify (kit : Kit τ) (source : String) (w : World τ σ) :
    ∃ other, Issues w (kit.minifier.minify kit.tools source : Act τ σ String)
      [minifying kit (minifyName other)] := by
  have hmake := (silent_makeTemporary (τ := τ) "anywhereify-minify-").issues w
  refine hmake.bind_exists fun p u hp => ?_
  obtain ⟨other, _, rfl, rfl, -⟩ := makeTemporary_eq_ok isTemporary_minify hp
  exact ⟨other, (issues_minifyIn kit source _ u).ensuring (silent_change _)⟩

theorem issues_reduced (kit : Kit τ) (config : Config) (source : String) (w : World τ σ) :
    ∃ other, Issues w (reduced kit config source : Act τ σ String)
      (if config.minify then [minifying kit (minifyName other)] else []) := by
  unfold reduced
  by_cases hminify : config.minify
  · simp only [if_pos hminify]
    exact ((silent_announce kit .minifying).issues w).bind_exists fun _ u _ =>
      issues_minify kit source u
  · simp only [if_neg hminify]
    exact ⟨0, (moves_pure source).issues w⟩

theorem issues_produce (kit : Kit τ) (config : Config) (project : Path)
    {nodes : List Export.Node} (hnodes : nodes ≠ []) (name : String) (w : World τ σ) :
    ∃ other, Issues w (produce kit config project nodes ⟨0, [name]⟩)
      (commandsOf kit config (Export.Node.packages nodes) name (minifyName other)
        (findings kit config.host ⟨0, [name]⟩
          ((furnish kit project nodes ⟨0, [name]⟩).after w))) := by
  have hinstall : installs kit (Export.Node.packages nodes) ⟨0, [name]⟩ =
      [installing kit (Export.Node.packages nodes) ⟨0, [name]⟩] := by
    simp [installs, Export.Node.packages, hnodes]
  have hfurnish := issues_furnish kit project nodes ⟨0, [name]⟩ w
  rw [hinstall] at hfurnish
  simp only [produce_eq_bind, commandsOf, List.append_assoc]
  refine hfurnish.bind_exists fun stub u₁ hstub => ?_
  obtain rfl := furnish_eq_ok hstub
  rw [after_of_perform hstub]
  refine (issues_resolveExternals kit config.host name u₁).bind_exists fun names u₂ hnames => ?_
  rw [externals_findings hnames]
  refine (issues_bundled kit nodes name names u₂).bind_exists fun source u₃ _ => ?_
  obtain ⟨other, hreduced⟩ := issues_reduced kit config source u₃
  exact ⟨other, hreduced.bind_silent fun text => moves_pure (names, text)⟩

theorem externals_of_produce {names : List String} {source : String}
    (h : (produce kit config project nodes ⟨0, [name]⟩).perform w = (.ok (names, source), v)) :
    (findings kit config.host ⟨0, [name]⟩
      ((furnish kit project nodes ⟨0, [name]⟩).after w)).externals = names := by
  rw [produce_eq_bind] at h
  obtain ⟨stub, u₁, hstub, h₁⟩ := bind_eq_ok_iff.1 h
  obtain ⟨names', u₂, hnames, h₂⟩ := bind_eq_ok_iff.1 h₁
  obtain ⟨_, _, _, h₃⟩ := bind_eq_ok_iff.1 h₂
  obtain ⟨_, _, _, hreturn⟩ := bind_eq_ok_iff.1 h₃
  cases hreturn
  rw [after_of_perform hstub, externals_findings hnames]

end Producing

section Whole

variable {kit : Kit τ} {config : Config} {project : Path} {w u v : World τ σ}

/-- A new build begins: no record counts, and a temporary project of the given name has been made.
The world is `u` then. -/
def Begins [Depths] [Identifier.Supply σ] (kit : Kit τ) (config : Config) (project : Path)
    (force : Bool) (w : World τ σ) (nodes : List Export.Node) (name : String) (u : World τ σ) :
    Prop :=
  ∃ inputs u₀ u₁, Prepared kit config project w u₀ nodes inputs ∧
    (known force config.out inputs).perform u₀ = (.ok none, u₁) ∧
    (makeTemporary "anywhereify-").perform u₁ = (.ok ⟨0, [name]⟩, u)

/-- What a build finds in a temporary project that was made in the world `u`. -/
def foundIn [Depths] (kit : Kit τ) (config : Config) (project : Path) (nodes : List Export.Node)
    (name : String) (u : World τ σ) : Findings :=
  findings kit config.host ⟨0, [name]⟩ ((furnish kit project nodes ⟨0, [name]⟩).after u)

section Places

variable {packages : List String} {directory : Path}

theorem installing_inj {l : List String} {d : Path}
    (h : installing kit packages directory = installing kit l d) :
    packages = l ∧ directory = d := by
  simpa [installing] using h

theorem installing_mem_installs {l : List String} {d : Path}
    (h : installing kit packages directory ∈ installs kit l d) : packages = l ∧ directory = d := by
  unfold installs at h
  split at h
  · cases h
  · exact installing_inj (List.mem_singleton.1 h)

theorem installing_ne_listing (d : Path) :
    installing kit packages directory ≠ listing kit d := by
  simp [installing, listing]

theorem installing_ne_bundling (name : String) (externals : List String) :
    installing kit packages directory ≠ bundling kit name externals := by
  simp [installing, bundling]

theorem installing_ne_minifying (name : String) :
    installing kit packages directory ≠ minifying kit name := by
  simp [installing, minifying]

theorem installing_mem {own : List String} {name minifier : String} {found : Findings}
    (h : installing kit packages directory ∈ commandsOf kit config own name minifier found) :
    packages = own ∧ directory = ⟨0, [name]⟩ ∨
      packages = found.hostNames ∧ directory = ⟨0, [name, "super"]⟩ ∨
      packages = found.projectNames ∧ directory = ⟨0, [name, "sub"]⟩ := by
  rcases List.mem_append.1 h with h | hminify
  · rcases List.mem_append.1 h with h | hbundle
    · rcases List.mem_append.1 h with hown | hcompare
      · exact .inl (installing_inj (List.mem_singleton.1 hown))
      · cases hhost : config.host with
        | none =>
          rw [hhost] at hcompare
          cases hcompare
        | some host =>
          rw [hhost] at hcompare
          rcases List.mem_append.1 hcompare with hcompare | hproject
          · rcases List.mem_append.1 hcompare with hlist | hside
            · rcases List.mem_pair.1 hlist with hlist | hlist
              · exact absurd hlist (installing_ne_listing _)
              · exact absurd hlist (installing_ne_listing _)
            · exact .inr (.inl (installing_mem_installs hside))
          · exact .inr (.inr (installing_mem_installs hproject))
    · exact absurd (List.mem_singleton.1 hbundle) (installing_ne_bundling _ _)
  · split at hminify
    · exact absurd (List.mem_singleton.1 hminify) (installing_ne_minifying _)
    · cases hminify

end Places

theorem externals_of_buildIn {inputs : Json.Value} {nodes : List Export.Node} {name : String}
    {names : List String}
    (h : ((buildIn kit config project inputs nodes ⟨0, [name]⟩).perform w).1 = .ok names) :
    (foundIn kit config project nodes name w).externals = names := by
  obtain ⟨⟨names', source⟩, u, hproduce, hrest⟩ := bind_eq_ok_iff.1 (Prod.ext h rfl)
  obtain ⟨_, _, _, hreturn⟩ := bind_eq_ok_iff.1 hrest
  cases hreturn
  exact externals_of_produce hproduce

theorem issues_buildIn [Depths] (kit : Kit τ) (config : Config) (project : Path) (inputs : Json.Value)
    {nodes : List Export.Node} (hnodes : nodes ≠ []) (name : String) (w : World τ σ) :
    ∃ other, Issues w (buildIn kit config project inputs nodes ⟨0, [name]⟩)
      (commandsOf kit config (Export.Node.packages nodes) name (minifyName other)
        (foundIn kit config project nodes name w)) := by
  obtain ⟨other, hproduce⟩ := issues_produce kit config project hnodes name w
  refine ⟨other, hproduce.bind_silent fun (externals, source) => ?_⟩
  exact (silent_deliver kit config inputs externals source).bind fun _ => moves_pure externals

theorem rebuild_commands [Depths] (kit : Kit τ) (config : Config) (project : Path)
    (inputs : Json.Value) {nodes : List Export.Node} (hnodes : nodes ≠ []) (w : World τ σ) :
    let run := (rebuild kit config project inputs nodes).perform w
    (run.2.commands = w.commands ∧ ∀ names, run.1 ≠ .ok names) ∨
      ∃ count other u ran,
        (makeTemporary "anywhereify-").perform w = (.ok ⟨0, [projectName count]⟩, u) ∧
        let found := foundIn kit config project nodes (projectName count) u
        let row := commandsOf kit config (Export.Node.packages nodes) (projectName count)
          (minifyName other) found
        run.2.commands = w.commands ++ ran ∧ ran <+: row ∧
        ∀ names, run.1 = .ok names → ran = row ∧ found.externals = names := by
  intro run
  have hsilent := silent_makeTemporary (τ := τ) "anywhereify-" w
  have hrun : run = (rebuild kit config project inputs nodes).perform w := rfl
  rcases hmake : (makeTemporary "anywhereify-").perform w with ⟨e | p, u⟩
  · rw [hmake] at hsilent
    left
    rw [hrun, rebuild, perform_bind, hmake]
    refine ⟨hsilent, fun names hnames => ?_⟩
    cases hnames
  · have hcommands : u.commands = w.commands := by
      rwa [hmake] at hsilent
    rw [perform_rebuild hmake] at hrun
    obtain ⟨count, _, rfl, rfl, -⟩ := makeTemporary_eq_ok isTemporary_project hmake
    obtain ⟨other, hissues⟩ := issues_buildIn kit config project inputs hnodes
      (projectName count) u
    obtain ⟨ran, hran, hfirst, hall⟩ :=
      hissues.ensuring (silent_finish config ⟨0, [projectName count]⟩)
    right
    refine ⟨count, other, u, ran, rfl, ?_, hfirst, fun names hnames => ?_⟩
    · rw [hrun, ← hcommands]
      exact hran
    · have hresult : ((buildIn kit config project inputs nodes
          ⟨0, [projectName count]⟩).perform u).1 = .ok names := by
        rw [← hnames, hrun]
        rfl
      exact ⟨hall names hresult, externals_of_buildIn hresult⟩

theorem packages_of_side {own : List String} {name minifier : String} {found : Findings}
    {ran : List Command} (h : ran <+: commandsOf kit config own name minifier found) :
    (∀ packages, installing kit packages ⟨0, [name, "super"]⟩ ∈ ran →
        packages = found.hostNames) ∧
      ∀ packages, installing kit packages ⟨0, [name, "sub"]⟩ ∈ ran →
        packages = found.projectNames := by
  constructor
  · intro packages hmem
    rcases installing_mem (h.subset hmem) with ⟨-, hdir⟩ | ⟨hnames, -⟩ | ⟨-, hdir⟩
    · simp at hdir
    · exact hnames
    · simp at hdir
  · intro packages hmem
    rcases installing_mem (h.subset hmem) with ⟨-, hdir⟩ | ⟨-, hdir⟩ | ⟨hnames, -⟩
    · simp at hdir
    · simp at hdir
    · exact hnames

/-- The commands of a build, in their order. Without a new build there are none; a new build runs
the first ones of its row, and all of them when it ends well. In the directory of one side only the
packages of that side are installed. -/
theorem commands_in_order [Identifier.Supply σ] (kit : Kit τ) (config : Config) (project : Path)
    (force : Bool) (w : World τ σ) :
    let run := (build kit config project force).perform w
    (run.2.commands = w.commands ∧ ∀ r, run.1 = .ok r → r.cached = true) ∨
      ∃ nodes count other u ran, Begins kit config project force w nodes (projectName count) u ∧
        let name := projectName count
        let found := foundIn kit config project nodes name u
        let row := commandsOf kit config (Export.Node.packages nodes) name (minifyName other) found
        run.2.commands = w.commands ++ ran ∧ ran <+: row ∧
        (∀ packages, installing kit packages ⟨0, [name, "super"]⟩ ∈ ran →
          packages = found.hostNames) ∧
        (∀ packages, installing kit packages ⟨0, [name, "sub"]⟩ ∈ ran →
          packages = found.projectNames) ∧
        ∀ r, run.1 = .ok r → r.cached = false ∧ ran = row ∧
          r.packages = Export.Node.packages nodes ∧ r.externals = found.externals.map .str := by
  intro run
  have hrun : run = (build kit config project force).perform w := rfl
  rw [build_eq_bind, perform_bind] at hrun
  have hsilent := silent_search (σ := σ) kit config project force w
  rcases hsearch : (search kit config project force).perform w with ⟨e | ⟨nodes, inputs, record⟩, x⟩
  · rw [hsearch] at hrun hsilent
    left
    rw [hrun]
    exact ⟨hsilent, nofun⟩
  rw [hsearch] at hrun hsilent
  dsimp only at hrun hsilent
  obtain ⟨x₀, hprepared, hknown⟩ := search_eq_ok hsearch
  cases record with
  | some record =>
    rw [perform_conclude_some] at hrun
    left
    rw [hrun]
    refine ⟨hsilent, fun r hr => ?_⟩
    cases hlistener : kit.listener .upToDate with
    | error e =>
      rw [hlistener] at hr
      cases hr
    | ok a =>
      rw [hlistener] at hr
      cases hr
      rfl
  | none =>
    have hnodes : nodes ≠ [] := (Export.isTree_of_compile (Prod.ext hprepared.compiled rfl)).1
    have hcommands := rebuild_commands kit config project inputs hnodes x
    rw [perform_conclude_none] at hrun
    rcases hrebuild : (rebuild kit config project inputs nodes).perform x with ⟨result, y⟩
    rw [hrebuild] at hrun hcommands
    dsimp only at hrun hcommands
    have hresult (r : Result) (hr : run.1 = .ok r) : ∃ names, result = .ok names ∧
        r = ⟨config.out.child outputName, Export.Node.packages nodes, names.map .str, false⟩ := by
      rw [hrun] at hr
      cases result with
      | error e => cases hr
      | ok names =>
        cases hr
        exact ⟨names, rfl, rfl⟩
    have hlast : run.2 = y := by rw [hrun]
    rcases hcommands with ⟨hnothing, hfailed⟩ | ⟨count, other, u, ran, hmake, hran, hfirst, hall⟩
    · left
      refine ⟨by rw [hlast, hnothing, hsilent], fun r hr => ?_⟩
      obtain ⟨names, hnames, -⟩ := hresult r hr
      exact absurd hnames (hfailed names)
    · obtain ⟨hhost, hproject⟩ := packages_of_side hfirst
      right
      refine ⟨nodes, count, other, u, ran, ⟨inputs, x₀, x, hprepared, hknown, hmake⟩, ?_, hfirst,
        hhost, hproject, fun r hr => ?_⟩
      · rw [hlast, hran, hsilent]
      · obtain ⟨names, hnames, rfl⟩ := hresult r hr
        obtain ⟨hwhole, hfound⟩ := hall names hnames
        exact ⟨rfl, hwhole, rfl, by rw [hfound]⟩

end Whole

/-- A project with a host that has newer versions; the listings of both name the project itself. -/
def aroundHost : World Rehearsal.State Identifier.Counter where
  disk := (Disk.empty.plant ["package.json"] (.file "\x7b\"name\":\"me\"\x7d".toUTF8.toList)).plant
    ["host", "package.json"] (.file "\x7b\x7d".toUTF8.toList)
  here := []
  tools := .ofScript
    { endings := []
      versions := [("super", [("a", .str "1.2.0"), ("b", .str "1.0.1")]),
        ("sub", [("a", .str "1.1.0"), ("b", .str "1.0.0")])]
      listings := [("host", ["b", "me", "a"]), ("anywhereify-1", ["a", "b", "me"])]
      wrapping := ("", "") }
  names := .fresh
  temporaries := 0
  time := ""
  commands := []
  warnings := []
  steps := []

def twoPackages : Config where
  exports := [.obj [("name", .str "a")], .obj [("name", .str "b")]]
  out := ⟨0, ["dist"]⟩
  polyfills := []
  minify := true
  host := some ⟨0, ["host"]⟩
  keepTemp := false
  root := ⟨1, []⟩

def sevenCommands : List Command :=
  [⟨["npm", "install", "--save", "--no-audit", "--no-fund", "a", "b"],
      some ⟨0, ["anywhereify-1"]⟩, .standard⟩,
    ⟨["npm", "ls", "--json", "--depth=0"], some ⟨0, ["host"]⟩, .standard⟩,
    ⟨["npm", "ls", "--json", "--depth=0"], some ⟨0, ["anywhereify-1"]⟩, .standard⟩,
    ⟨["npm", "install", "--save", "--no-audit", "--no-fund", "b", "a"],
      some ⟨0, ["anywhereify-1", "super"]⟩, .standard⟩,
    ⟨["npm", "install", "--save", "--no-audit", "--no-fund", "a", "b"],
      some ⟨0, ["anywhereify-1", "sub"]⟩, .standard⟩,
    ⟨["npx", "--yes", "browserify", "anywhereify-1/stub.js", "-x", "a", "-x", "b", "-o",
      "anywhereify-1/bundle.js"], some ⟨0, ["anywhereify-1"]⟩, .standard⟩,
    ⟨["npx", "--yes", "babel-minify", "anywhereify-minify-2/input.js", "--out-file",
      "anywhereify-minify-2/output.js", "--mangle=false", "--regexpConstructors=false"],
      some ⟨0, ["anywhereify-minify-2"]⟩, .standard⟩]

/-- Nothing goes wrong, and the commands are all those of the row. -/
theorem commands_in_order_around_host :
    let _ : Depths := .ofCalls 900
    let kit := Kit.standard Rehearsal.tools
    ∃ r v, (build kit twoPackages ⟨0, []⟩ false).perform aroundHost = (.ok r, v) ∧
      v.commands = sevenCommands ∧
      ∃ nodes count other, ∃ u : World Rehearsal.State Identifier.Counter,
        let found := foundIn kit twoPackages ⟨0, []⟩ nodes (projectName count) u
        r.externals = found.externals.map .str ∧
        commandsOf kit twoPackages (Export.Node.packages nodes) (projectName count)
          (minifyName other) found = sevenCommands := by
  intro depths kit
  have hcheck : ((build kit twoPackages ⟨0, []⟩ false).perform aroundHost).1.toBool = true ∧
      ((build kit twoPackages ⟨0, []⟩ false).perform aroundHost).2.commands = sevenCommands := by
    decide +kernel
  have horder := @commands_in_order depths _ _ _ kit twoPackages ⟨0, []⟩ false aroundHost
  generalize (build kit twoPackages ⟨0, []⟩ false).perform aroundHost = run at hcheck horder
  obtain ⟨result, v⟩ := run
  obtain ⟨hdone, hcommands⟩ := hcheck
  cases result with
  | error e => cases hdone
  | ok r =>
    refine ⟨r, v, rfl, hcommands, ?_⟩
    rcases horder with ⟨hnone, -⟩ | ⟨nodes, count, other, u, ran, -, hran, -, -, -, hall⟩
    · exact absurd (hcommands.symm.trans hnone) (by decide)
    · obtain ⟨-, hrow, -, hexternals⟩ := hall r rfl
      refine ⟨nodes, count, other, u, hexternals, ?_⟩
      rw [← hrow, ← hcommands]
      exact hran.symm

end Build

end ExportBundle
