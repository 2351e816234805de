import ExportBundle.Proofs.Build.Inputs
import ExportBundle.Proofs.Build.Lockstep
import ExportBundle.Proofs.Build.Record
import ExportBundle.Proofs.Build.Scratch

/-! The stages of a build. Before it looks for a record a build only reads; a new build works in a
temporary directory for which there has to be room, and leaves its output and a record. -/

namespace ExportBundle.Build

open Act
open Json (Value)

variable {depths : Depths} {τ σ : Type}

/-- There is room for the next temporary directories. -/
structure Room (w : World τ σ) : Prop where
  standing : w.disk.lookup w.here = some .directory
  few : w.temporaries + 2 < 10 ^ 180
  unused : ∀ count, w.temporaries < count →
    IsFree w.disk w.here (projectName count) ∧ IsFree w.disk w.here (minifyName count)

abbrev scratch (w : World τ σ) : Path := ⟨0, [projectName (w.temporaries + 1)]⟩

abbrev withScratch (w : World τ σ) : World τ σ :=
  withTemporary w (projectName (w.temporaries + 1))

section Names

theorem length_decimal_le {n : Nat} (h : n < 10 ^ 180) : (Text.decimal n).length ≤ 180 := by
  rw [Text.decimal, String.length_ofList]
  exact (Nat.length_toDigits_le_iff (by decide) (by decide)).2 h

theorem roomy_project {count : Nat} (h : count < 10 ^ 180) : Roomy (projectName count) := by
  have hdigits := length_decimal_le h
  clear h
  have hstem : "anywhereify-".length = 12 := by decide
  have hlength : (projectName count).length =
      "anywhereify-".length + (Text.decimal count).length := String.length_append _ _
  exact ⟨isTemporary_project count, by omega⟩

theorem roomy_minify {count : Nat} (h : count < 10 ^ 180) : Roomy (minifyName count) := by
  have hdigits := length_decimal_le h
  clear h
  have hstem : "anywhereify-minify-".length = 19 := by decide +kernel
  have hlength : (minifyName count).length =
      "anywhereify-minify-".length + (Text.decimal count).length := String.length_append _ _
  exact ⟨isTemporary_minify count, by omega⟩

variable {w : World τ σ} (h : Room w)

include h

theorem Room.makeTemporary :
    (makeTemporary "anywhereify-").perform w = (.ok (scratch w), withScratch w) := by
  have hfew := h.few
  exact perform_makeTemporary (roomy_project (by omega)) h.standing
    (h.unused (w.temporaries + 1) (by omega)).1

theorem Room.spare : Spare (projectName (w.temporaries + 1)) (withScratch w) := by
  have hfew := h.few
  have hother := projectName_ne_minifyName (w.temporaries + 1) (w.temporaries + 1 + 1)
  refine ⟨roomy_minify hfew, hother, fun below => ?_⟩
  have hfree := (h.unused (w.temporaries + 1 + 1) (by omega)).2 below
  exact (lookup_withTemporary (not_inside_of_ne hother w.here below)).trans hfree

omit h in
theorem lookup_withScratch {l : Location} (hl : ¬ Temporary w.here l) :
    (withScratch w).disk.lookup l = w.disk.lookup l :=
  lookup_withTemporary fun hin => hl (hin.temporary (isTemporary_project _))

theorem Room.of_agrees {v : World τ σ} (hv : World.Agrees w v) : Room v := by
  refine ⟨?_, ?_, ?_⟩
  · rw [hv.disk, hv.here, h.standing]
  · rw [hv.temporaries]
    exact h.few
  · rw [hv.disk, hv.here, hv.temporaries]
    exact h.unused

end Names

/-! The parts of a build that ended well -/

section Parts

variable [Identifier.Supply σ] {kit : Kit τ} {config : Config} {project : Path}

/-- What is known before a build looks for a record: the world is `u` then. -/
structure Prepared [Depths] (kit : Kit τ) (config : Config) (project : Path) (w u : World τ σ)
    (nodes : List Export.Node) (inputs : Value) : Prop where
  announced : kit.listener .compiling = .ok ()
  compiled : (Export.compile (Value.arr config.entries) w.names).1 = .ok nodes
  inputs : InputsOn (inputsOf config project) w.disk w.here inputs
  world : u = { w with
    steps := w.steps ++ [.compiling]
    names := (Export.compile (Value.arr config.entries) w.names).2 }

theorem Prepared.agrees {w u : World τ σ} {nodes : List Export.Node} {inputs : Value}
    (h : Prepared kit config project w u nodes inputs) : World.Agrees w u := by
  rw [h.world]
  exact ⟨rfl, rfl, rfl, rfl⟩

def known [Depths] (force : Bool) (out : Path) (inputs : Value) : Act τ σ (Option Record) :=
  if force then pure none else lookup out inputs

omit [Identifier.Supply σ] in
theorem moves_known (force : Bool) (out : Path) (inputs : Value) :
    Moves World.Agrees (known force out inputs : Act τ σ _) := by
  unfold known
  split
  · exact moves_pure none
  · exact moves_lookup moves_warnAll out inputs

omit [Identifier.Supply σ] in
theorem known_agrees {force : Bool} {out : Path} {inputs : Value} {record : Option Record}
    {u u' : World τ σ} (h : (known force out inputs).perform u = (.ok record, u')) :
    World.Agrees u u' := (moves_known force out inputs).of_perform h

theorem Prepared.found {force : Bool} {w u v : World τ σ} {nodes : List Export.Node}
    {inputs : Value} {record : Record} (h : Prepared kit config project w u nodes inputs)
    (hknown : (known force config.out inputs).perform u = (.ok (some record), v)) :
    Found w.disk w.here config.out inputs record := by
  cases force with
  | true => cases hknown
  | false =>
    have hfound := lookup_eq_some hknown
    rwa [h.agrees.disk, h.agrees.here] at hfound

/-- What a build does before it knows whether there is anything to do. -/
def search [Depths] (kit : Kit τ) (config : Config) (project : Path) (force : Bool) :
    Act τ σ (List Export.Node × Value × Option Record) := do
  kit.announce .compiling
  let nodes ← compile config.entries
  let inputs ← inputDocument (inputsOf config project)
  let record ← known force config.out inputs
  return (nodes, inputs, record)

theorem moves_search [Depths] (kit : Kit τ) (config : Config) (project : Path) (force : Bool) :
    Moves World.Agrees (search kit config project force : Act τ σ _) :=
  (moves_announce kit _).bind fun _ => (moves_compile _).bind fun _ =>
    Moves.bind (moves_inputDocument _) fun _ => (moves_known _ _ _).bind fun _ => moves_pure _

theorem build_eq_bind (kit : Kit τ) (config : Config) (project : Path) (force : Bool) :
    (build kit config project force : Act τ σ Result) = search kit config project force >>=
      fun (nodes, inputs, record) => conclude kit config project inputs nodes record := by
  cases force <;> simp only [build, search, known, inputsOf, bind_assoc, pure_bind, if_true,
    Bool.false_eq_true, if_false]

theorem search_eq_ok {force : Bool} {w v : World τ σ} {nodes : List Export.Node} {inputs : Value}
    {record : Option Record}
    (h : (search kit config project force).perform w = (.ok (nodes, inputs, record), v)) :
    ∃ u, Prepared kit config project w u nodes inputs ∧
      (known force config.out inputs).perform u = (.ok record, v) := by
  obtain ⟨_, u₁, hannounce, h₁⟩ := bind_eq_ok_iff.1 h
  obtain ⟨hannounced, rfl⟩ := announce_eq_ok_iff.1 hannounce
  obtain ⟨nodes', u₂, hcompile, h₂⟩ := bind_eq_ok_iff.1 h₁
  obtain ⟨hcompiled, rfl⟩ := compile_eq_ok_iff.1 hcompile
  obtain ⟨inputs', _, hread, h₃⟩ := bind_eq_ok_iff.1 h₂
  obtain ⟨hinputs, rfl⟩ := inputDocument_eq_ok_iff.1 hread
  obtain ⟨record', _, hknown, hreturn⟩ := bind_eq_ok_iff.1 h₃
  cases hreturn
  exact ⟨_, ⟨hannounced, hcompiled, hinputs, rfl⟩, hknown⟩

theorem build_eq_ok {force : Bool} {w v : World τ σ} {r : Result}
    (h : (build kit config project force).perform w = (.ok r, v)) :
    ∃ nodes inputs u, Prepared kit config project w u nodes inputs ∧ ∃ record u',
      (known force config.out inputs).perform u = (.ok record, u') ∧
      (conclude kit config project inputs nodes record).perform u' = (.ok r, v) := by
  rw [build_eq_bind] at h
  obtain ⟨⟨nodes, inputs, record⟩, u', hsearch, hconclude⟩ := bind_eq_ok_iff.1 h
  obtain ⟨u, hprepared, hknown⟩ := search_eq_ok hsearch
  exact ⟨nodes, inputs, u, hprepared, record, u', hknown, hconclude⟩

theorem perform_build {force : Bool} {w u : World τ σ} {nodes : List Export.Node}
    {inputs : Value} (h : Prepared kit config project w u nodes inputs) :
    (build kit config project force).perform w =
      (known force config.out inputs >>= conclude kit config project inputs nodes).perform u := by
  have hannounce : (kit.announce .compiling : Act τ σ Unit).perform w =
      (.ok (), { w with steps := w.steps ++ [.compiling] }) :=
    announce_eq_ok_iff.2 ⟨h.announced, rfl⟩
  have hcompile : (compile config.entries : Act τ σ _).perform
      { w with steps := w.steps ++ [.compiling] } = (.ok nodes, u) :=
    compile_eq_ok_iff.2 ⟨h.compiled, h.world⟩
  have hinputs : (inputDocument (inputsOf config project)).perform u = (.ok inputs, u) := by
    refine inputDocument_eq_ok_iff.2 ⟨?_, rfl⟩
    rw [h.agrees.disk, h.agrees.here]
    exact h.inputs
  rw [build_eq_bind, search]
  simp only [bind_assoc, pure_bind]
  rw [perform_bind, hannounce]
  dsimp only
  rw [perform_bind, hcompile]
  dsimp only
  rw [perform_bind, hinputs]

theorem perform_build_forced {w u : World τ σ} {nodes : List Export.Node} {inputs : Value}
    (h : Prepared kit config project w u nodes inputs) :
    (build kit config project true).perform w =
      (conclude kit config project inputs nodes none).perform u := by
  rw [perform_build h, known, if_pos rfl, pure_bind]

theorem perform_build_found {w u : World τ σ} {nodes : List Export.Node} {inputs : Value}
    {record : Record} (h : Prepared kit config project w u nodes inputs)
    (hfound : Found w.disk w.here config.out inputs record) :
    (build kit config project false).perform w =
      (conclude kit config project inputs nodes (some record)).perform u := by
  rw [← h.agrees.disk, ← h.agrees.here] at hfound
  rw [perform_build h, known, if_neg Bool.false_ne_true, perform_bind, lookup_of_found hfound]

omit [Identifier.Supply σ] in
theorem perform_conclude_some (inputs : Value) (nodes : List Export.Node) (record : Record)
    (w : World τ σ) :
    (conclude kit config project inputs nodes (some record)).perform w =
      ((kit.listener .upToDate).map fun _ =>
          ⟨config.out.child outputName, Export.Node.packages nodes, record.externals, true⟩,
        { w with steps := w.steps ++ [.upToDate] }) := by
  rw [conclude, perform_bind, perform_announce]
  cases kit.listener .upToDate <;> rfl

omit [Identifier.Supply σ] in
theorem perform_conclude_none (inputs : Value) (nodes : List Export.Node) (w : World τ σ) :
    (conclude kit config project inputs nodes none).perform w =
      (((rebuild kit config project inputs nodes).perform w).1.map fun names =>
          ⟨config.out.child outputName, Export.Node.packages nodes, names.map .str, false⟩,
        ((rebuild kit config project inputs nodes).perform w).2) := by
  rw [conclude, perform_bind]
  rcases (rebuild kit config project inputs nodes).perform w with ⟨e | names, v⟩ <;> rfl

omit [Identifier.Supply σ] in
theorem conclude_eq_ok {inputs : Value} {nodes : List Export.Node} {record : Option Record}
    {w v : World τ σ} {r : Result}
    (h : (conclude kit config project inputs nodes record).perform w = (.ok r, v)) :
    (∃ known, record = some known ∧
        r = ⟨config.out.child outputName, Export.Node.packages nodes, known.externals, true⟩) ∨
      record = none ∧ ∃ externals,
        (rebuild kit config project inputs nodes).perform w = (.ok externals, v) ∧
        r = ⟨config.out.child outputName, Export.Node.packages nodes, externals.map .str, false⟩ := by
  cases record with
  | some known =>
    obtain ⟨_, _, _, hreturn⟩ := bind_eq_ok_iff.1 h
    cases hreturn
    exact .inl ⟨known, rfl, rfl⟩
  | none =>
    obtain ⟨externals, _, hrebuild, hreturn⟩ := bind_eq_ok_iff.1 h
    cases hreturn
    exact .inr ⟨rfl, externals, hrebuild, rfl⟩

end Parts

/-! A new build -/

section Rebuild

variable {kit : Kit τ} {config : Config} {project : Path} {inputs : Value}
  {nodes : List Export.Node} {region : Location → Location → Prop} {w v u x : World τ σ} {p : Path}

theorem perform_rebuild (hmake : (makeTemporary "anywhereify-").perform w = (.ok p, x)) :
    (rebuild kit config project inputs nodes).perform w =
      (ensuring (buildIn kit config project inputs nodes p) (finish config p)).perform x := by
  rw [rebuild, perform_bind, hmake]
  rfl

theorem makeTemporary_kept (hmake : (makeTemporary "anywhereify-").perform w = (.ok p, x)) :
    x.here = w.here ∧ x.disk.isDirectory x.here p = .ok true ∧
      ∀ l, ¬ Temporary w.here l → x.disk.lookup l = w.disk.lookup l := by
  obtain ⟨count, name, rfl, rfl, hreserved⟩ := makeTemporary_eq_ok isTemporary_project hmake
  refine ⟨hreserved.here, ?_, fun l hl => hreserved.kept l fun hin => ?_⟩
  · rw [hreserved.here]
    exact hreserved.there
  · exact hl (hin.temporary (isTemporary_project count))

theorem produce_eq_ok (hmake : (makeTemporary "anywhereify-").perform w = (.ok p, x))
    (hproject : ∀ l ∈ project.trail w.here, ¬ Temporary w.here l) {r : List String × String}
    (h : (produce kit config project nodes p).perform x = (.ok r, v)) :
    kit.listener .scaffolding = .ok () ∧
      ∃ bytes, w.disk.read w.here (project.child manifestName) = .ok bytes := by
  obtain ⟨hhere, hdir, hkept⟩ := makeTemporary_kept hmake
  obtain ⟨_, u, hannounce, hrest⟩ := bind_eq_ok_iff.1 h
  obtain ⟨hlistener, rfl⟩ := announce_eq_ok_iff.1 hannounce
  refine ⟨hlistener, ?_⟩
  obtain ⟨_, _, hscaffold, _⟩ := bind_eq_ok_iff.1 hrest
  obtain ⟨_, _, hmade, hscaffold⟩ := bind_eq_ok_iff.1 hscaffold
  rw [makeDirectories_of_isDirectory (w := { x with steps := x.steps ++ [.scaffolding] }) hdir]
    at hmade
  cases hmade
  obtain ⟨there, _, hask, hscaffold⟩ := bind_eq_ok_iff.1 hscaffold
  obtain ⟨hthere, rfl⟩ := inquire_eq_ok_iff.1 hask
  cases there with
  | false =>
    obtain ⟨_, _, hfail, _⟩ := bind_eq_ok_iff.1 hscaffold
    cases hfail
  | true =>
    obtain ⟨hleads, bytes, hfile⟩ := Disk.isFile_eq_true_iff.1 hthere
    have hmanifest := trail_file manifestName (by decide) hproject
    refine ⟨bytes, ?_⟩
    rw [← Disk.read_congr fun l hl => hkept l (hmanifest l hl), ← hhere]
    exact Disk.read_eq_ok_iff.2 ⟨hleads, hfile⟩

theorem produce_of_missing (config : Config) (nodes : List Export.Node)
    (hmake : (makeTemporary "anywhereify-").perform w = (.ok p, x))
    (hproject : ∀ l ∈ project.trail w.here, ¬ Temporary w.here l)
    (hlistener : kit.listener .scaffolding = .ok ())
    (hmissing : w.disk.isFile w.here (project.child manifestName) = .ok false) :
    ∃ u, (produce kit config project nodes p).perform x = (.error (.noManifest project), u) := by
  obtain ⟨hhere, hdir, hkept⟩ := makeTemporary_kept hmake
  have hmanifest := trail_file manifestName (by decide) hproject
  have hstill : x.disk.isFile x.here (project.child manifestName) = .ok false := by
    rw [hhere, Disk.isFile_congr fun l hl => hkept l (hmanifest l hl), hmissing]
  have hannounce : (kit.announce .scaffolding : Act τ σ Unit).perform x =
      (.ok (), { x with steps := x.steps ++ [.scaffolding] }) :=
    announce_eq_ok_iff.2 ⟨hlistener, rfl⟩
  have hmade := makeDirectories_of_isDirectory (w := { x with
    steps := x.steps ++ [.scaffolding] }) hdir
  rw [produce, perform_bind, hannounce]
  dsimp only
  rw [perform_bind, scaffold, perform_bind, hmade]
  dsimp only
  rw [perform_bind, isFile, perform_inquire]
  dsimp only
  rw [hstill]
  exact ⟨_, rfl⟩

theorem produce_changedIn (hkeeps : KeepsTo kit region)
    (hmake : (makeTemporary "anywhereify-").perform w = (.ok p, x)) {r : List String × String}
    (h : (produce kit config project nodes p).perform x = (.ok r, u)) :
    World.ChangedIn region w u := by
  obtain ⟨name, hname, rfl⟩ := makeTemporary_name isTemporary_project w p x hmake
  have hmade := (moves_makeTemporary (σ := σ) hkeeps isTemporary_project).of_perform hmake
  exact IsTrans.trans _ _ _ hmade ((moves_produce hkeeps hname config project nodes).of_perform h)

/-- What a build leaves in its output directory. -/
structure Left [Depths] (config : Config) (v : World τ σ) (digest time : String)
    (externals : List String)
    (source : String) : Prop where
  directory : v.disk.isDirectory v.here config.out = .ok true
  output : v.disk.read v.here (config.out.child outputName) =
    .ok (Text.Utf8.encode source.toList)
  record : v.disk.read v.here (config.out.child recordName) =
    .ok (Record.noted digest time externals).bytes

def Avoids (region : Location → Location → Prop) (out : Path) (here : Location) : Prop :=
  ∀ l, Delivered out here l → ¬ region here l

theorem avoids_temporary {out : Path} {here : Location}
    (h : ∀ l ∈ out.trail here, ¬ Temporary here l) : Avoids Temporary out here := by
  rintro l (hl | rfl | rfl)
  · exact h l hl
  · exact not_temporary_child (h _ Path.place_mem_trail) (not_temporary_file outputName (by decide))
  · exact not_temporary_child (h _ Path.place_mem_trail) (not_temporary_file recordName (by decide))

theorem Left.of_changedIn {digest time : String} {externals : List String} {source : String}
    (h : Left config w digest time externals source)
    (hstanding : w.disk.lookup w.here = some .directory) (hchanged : World.ChangedIn region w v)
    (havoids : Avoids region config.out w.here) :
    Left config v digest time externals source := by
  have hkept : ∀ l, Delivered config.out w.here l → v.disk.lookup l = w.disk.lookup l :=
    fun l hl => hchanged.kept hstanding l (.inr (havoids l hl))
  refine ⟨?_, ?_, ?_⟩
  · rw [hchanged.here, Disk.isDirectory_congr fun l hl => hkept l (.inl hl), h.directory]
  · rw [hchanged.here, Disk.read_congr fun l hl => hkept l ?_, h.output]
    exact (mem_trail_file (by decide) hl).imp_right .inl
  · rw [hchanged.here, Disk.read_congr fun l hl => hkept l ?_, h.record]
    exact (mem_trail_file (by decide) hl).imp_right .inr

/-- Outside the region the second world is the first one with a delivery. -/
structure Delivers [Depths] (region : Location → Location → Prop) (out : Path) (w v : World τ σ) :
    Prop where
  here : v.here = w.here
  directories : ∀ l, l = w.here ∨ ¬ region w.here l → w.disk.lookup l = some .directory →
    v.disk.lookup l = some .directory
  kept : ∀ l, ¬ region w.here l → ¬ Delivered out w.here l → v.disk.lookup l = w.disk.lookup l

theorem delivers_of_deliver {externals : List String} {source : String}
    (hstanding : w.disk.lookup w.here = some .directory) (hchanged : World.ChangedIn region w u)
    (h : (deliver kit config inputs externals source).perform u = (.ok (), v)) :
    Delivers region config.out w v := by
  have hstays := stays_deliver kit config inputs externals source u
  have hmoves := moves_deliver_out kit config inputs externals source u
  rw [h] at hstays hmoves
  have hhere := hchanged.here
  have hstill : u.disk.lookup u.here = some .directory := by
    rw [hhere, hchanged.kept hstanding _ (.inl rfl), hstanding]
  refine ⟨hstays.here.trans hhere, fun l hl hdir => ?_, fun l hl hout => ?_⟩
  · exact hstays.directories l ((hchanged.kept hstanding l hl).trans hdir)
  · rw [hmoves.kept hstill l (.inr (by rwa [hhere])), hchanged.kept hstanding l (.inr hl)]

theorem Delivers.of_changedIn {out : Path} (h : Delivers region out w u)
    (hstanding : w.disk.lookup w.here = some .directory) (hchanged : World.ChangedIn region u v) :
    Delivers region out w v := by
  have hstill : u.disk.lookup u.here = some .directory := by
    rw [h.here, h.directories _ (.inl rfl) hstanding]
  have hkept : ∀ l, l = w.here ∨ ¬ region w.here l → v.disk.lookup l = u.disk.lookup l := by
    rw [← h.here]
    exact hchanged.kept hstill
  refine ⟨hchanged.here.trans h.here, fun l hl hdir => ?_, fun l hl hout => ?_⟩
  · rw [hkept l hl, h.directories l hl hdir]
  · rw [hkept l (.inr hl), h.kept l hl hout]

theorem rebuild_eq_ok (hkeeps : KeepsTo kit region)
    (hstanding : w.disk.lookup w.here = some .directory)
    (havoids : Avoids region config.out w.here) {externals : List String}
    (h : (rebuild kit config project inputs nodes).perform w = (.ok externals, v)) :
    ∃ p x source u, (makeTemporary "anywhereify-").perform w = (.ok p, x) ∧
      (produce kit config project nodes p).perform x = (.ok (externals, source), u) ∧
      kit.listener (.writing (config.out.child outputName)) = .ok () ∧
      (∃ digest time, Canonical.fingerprint (.ofJson inputs) = .ok digest ∧
        Left config v digest time externals source) ∧ Delivers region config.out w v := by
  obtain ⟨p, x, hmake, _⟩ := bind_eq_ok_iff.1 h
  rw [perform_rebuild hmake, perform_ensuring] at h
  rcases hbuild : (buildIn kit config project inputs nodes p).perform x with ⟨result, y⟩
  rw [hbuild] at h
  obtain ⟨rfl, hlast⟩ := Prod.mk.inj h
  obtain ⟨⟨externals', source⟩, u, hproduce, hrest⟩ := bind_eq_ok_iff.1 hbuild
  obtain ⟨_, y', hdeliver, hreturn⟩ := bind_eq_ok_iff.1 hrest
  cases hreturn
  have hdelivers := delivers_of_deliver hstanding (produce_changedIn hkeeps hmake hproduce) hdeliver
  have hstill : y.disk.lookup y.here = some .directory := by
    rw [hdelivers.here, hdelivers.directories _ (.inl rfl) hstanding]
  obtain ⟨name, hname, rfl⟩ := makeTemporary_name isTemporary_project w p x hmake
  have hfinished : World.ChangedIn region y v := by
    rw [← hlast]
    exact (hkeeps name hname).widen (moves_finish config hname) y
  obtain ⟨hlistener, hdirectory, houtput, digest, time, hdigest, hrecord⟩ := deliver_eq_ok hdeliver
  refine ⟨_, x, source, u, hmake, hproduce, hlistener, ⟨digest, time, hdigest, ?_⟩,
    hdelivers.of_changedIn hstanding hfinished⟩
  exact Left.of_changedIn ⟨hdirectory, houtput, hrecord⟩ hstill hfinished
    (by rwa [hdelivers.here])

theorem rebuild_of_left (hkeeps : KeepsTo kit region)
    (hstanding : w.disk.lookup w.here = some .directory)
    (hmake : (makeTemporary "anywhereify-").perform w = (.ok p, x))
    (havoids : Avoids region config.out w.here)
    (hlistener : kit.listener (.writing (config.out.child outputName)) = .ok ())
    {digest digest' time' source source' : String} {externals externals' : List String}
    (hdigest : Canonical.fingerprint (.ofJson inputs) = .ok digest)
    (hleft : Left config w digest' time' externals' source')
    (hproduce : (produce kit config project nodes p).perform x = (.ok (externals, source), u)) :
    ∃ v time, (rebuild kit config project inputs nodes).perform w = (.ok externals, v) ∧
      v.here = w.here ∧ Left config v digest time externals source := by
  have hchanged := produce_changedIn hkeeps hmake hproduce
  have hstill := hleft.of_changedIn hstanding hchanged havoids
  have hdelivered : ∃ y, (deliver kit config inputs externals source).perform u = (.ok (), y) :=
    deliver_of_there hlistener hdigest hstill.directory hstill.output hstill.record
  obtain ⟨y, hdeliver⟩ := hdelivered
  have hdelivers := delivers_of_deliver hstanding hchanged hdeliver
  obtain ⟨_, hdirectory, houtput, digest₁, time, hdigest₁, hrecord⟩ := deliver_eq_ok hdeliver
  obtain rfl := Except.ok.inj (hdigest.symm.trans hdigest₁)
  have hbuild : (buildIn kit config project inputs nodes p).perform x = (.ok externals, y) :=
    bind_eq_ok_iff.2 ⟨_, u, hproduce, bind_eq_ok_iff.2 ⟨(), y, hdeliver, rfl⟩⟩
  have hstill' : y.disk.lookup y.here = some .directory := by
    rw [hdelivers.here, hdelivers.directories _ (.inl rfl) hstanding]
  obtain ⟨name, hname, rfl⟩ := makeTemporary_name isTemporary_project w p x hmake
  have hfinished := (hkeeps name hname).widen (moves_finish (σ := σ) config hname) y
  refine ⟨_, time, ?_, hfinished.here.trans hdelivers.here,
    Left.of_changedIn ⟨hdirectory, houtput, hrecord⟩ hstill' hfinished (by rwa [hdelivers.here])⟩
  rw [perform_rebuild hmake, perform_ensuring, hbuild]

theorem rebuild_of_missing (config : Config) (inputs : Value) (nodes : List Export.Node)
    (hmake : (makeTemporary "anywhereify-").perform w = (.ok p, x))
    (hproject : ∀ l ∈ project.trail w.here, ¬ Temporary w.here l)
    (hlistener : kit.listener .scaffolding = .ok ())
    (hmissing : w.disk.isFile w.here (project.child manifestName) = .ok false) :
    ∃ v, (rebuild kit config project inputs nodes).perform w =
      (.error (.noManifest project), v) := by
  obtain ⟨u, hproduce⟩ := produce_of_missing config nodes hmake hproject hlistener
    hmissing
  rw [perform_rebuild hmake, perform_ensuring, buildIn, perform_bind, hproduce]
  exact ⟨_, rfl⟩

end Rebuild

end ExportBundle.Build
