import ExportBundle.Proofs.Build.Twin
import ExportBundle.Proofs.Canonical

/-! What the fingerprint of a build stands for. The inputs of a build are read off the disk; when the
fingerprints of two builds are the same, and no two different texts collide, their projects declare
the same dependencies and have the same lockfiles. -/

namespace ExportBundle.Build

open Act
open Json (Value)

variable {depths : Depths} {τ σ : Type}

def IsDigest [Depths] (lock digest : Value) : Prop :=
  lock = .null ∧ digest = .null ∨
    lock ≠ .null ∧ ∃ text, Canonical.fingerprint (.ofJson lock) = .ok text ∧ digest = .str text

/-- The state of a project among the inputs: its dependencies and what stands for its lockfile. -/
def StateOn [Depths] (d : Disk) (here : Location) (directory : Path) (state : Value × Value) : Prop :=
  ∃ manifest lock, d.document? here (directory.child manifestName) = .ok manifest ∧
    d.document? here (directory.child lockName) = .ok lock ∧
    declared (manifest.getD .null) = .ok state.1 ∧ IsDigest (lock.getD .null) state.2

theorem readJson?_eq_ok_iff {p : Path} {w v : World τ σ} {doc : Option Value} :
    (readJson? p).perform w = (.ok doc, v) ↔ w.disk.document? w.here p = .ok doc ∧ v = w := by
  rw [perform_readJson?, Prod.mk.injEq, eq_comm (a := w)]

theorem projectState_eq_ok_iff {directory : Path} {w v : World τ σ} {state : Value × Value} :
    (projectState directory).perform w = (.ok state, v) ↔
      StateOn w.disk w.here directory state ∧ v = w := by
  constructor
  · intro h
    obtain ⟨manifest, _, hread, h₁⟩ := bind_eq_ok_iff.1 h
    obtain ⟨hmanifest, rfl⟩ := readJson?_eq_ok_iff.1 hread
    obtain ⟨lock, _, hread', h₂⟩ := bind_eq_ok_iff.1 h₁
    obtain ⟨hlock, rfl⟩ := readJson?_eq_ok_iff.1 hread'
    obtain ⟨dependencies, _, hlift, h₃⟩ := bind_eq_ok_iff.1 h₂
    obtain ⟨hdeclared, rfl⟩ := lift_eq_ok_iff.1 hlift
    split at h₃
    · rename_i hnull
      obtain ⟨digest, _, hpure, hreturn⟩ := bind_eq_ok_iff.1 h₃
      cases hpure
      cases hreturn
      exact ⟨⟨manifest, lock, hmanifest, hlock, hdeclared, .inl ⟨hnull, rfl⟩⟩, rfl⟩
    · rename_i hsome
      obtain ⟨digest, _, hmap, hreturn⟩ := bind_eq_ok_iff.1 h₃
      obtain ⟨text, hprint, rfl⟩ := map_eq_ok_iff.1 hmap
      obtain ⟨hf, rfl⟩ := lift_eq_ok_iff.1 hprint
      cases hreturn
      exact ⟨⟨manifest, lock, hmanifest, hlock, hdeclared, .inr ⟨hsome, text, hf, rfl⟩⟩, rfl⟩
  · rintro ⟨⟨manifest, lock, hmanifest, hlock, hdeclared, hdigest⟩, rfl⟩
    refine bind_eq_ok_iff.2 ⟨manifest, v, readJson?_eq_ok_iff.2 ⟨hmanifest, rfl⟩, ?_⟩
    refine bind_eq_ok_iff.2 ⟨lock, v, readJson?_eq_ok_iff.2 ⟨hlock, rfl⟩, ?_⟩
    refine bind_eq_ok_iff.2 ⟨state.1, v, lift_eq_ok_iff.2 ⟨hdeclared, rfl⟩, ?_⟩
    obtain ⟨dependencies, digest⟩ := state
    rcases hdigest with ⟨hnull, rfl⟩ | ⟨hsome, text, hf, rfl⟩
    · rw [hnull]
      rfl
    · split
      · rename_i hnull
        exact absurd hnull hsome
      · have hprint : (fingerprint (lock.getD .null) : Act τ σ String).perform v = (.ok text, v) :=
          lift_eq_ok_iff.2 ⟨hf, rfl⟩
        exact bind_eq_ok_iff.2 ⟨.str text, v, map_eq_ok_iff.2 ⟨text, hprint, rfl⟩, rfl⟩

def stateDocument (state : Value × Value) : Value :=
  .obj [("dependencies", state.1), ("lockfile", state.2)]

def HostOn [Depths] (d : Disk) (here : Location) (host : Option Path) (v : Value) : Prop :=
  match host with
  | none => v = .null
  | some directory => ∃ state, StateOn d here directory state ∧ v = stateDocument state

def InputsOn [Depths] (i : Inputs) (d : Disk) (here : Location) (inputs : Value) : Prop :=
  ∃ state host, StateOn d here i.project state ∧ HostOn d here i.host host ∧
    inputs = .obj [("exports", .arr i.exports), ("minify", .bool i.minify),
      ("host", (i.host.map fun p => .str p.text).getD .null), ("dependencies", state.1),
      ("lockfile", state.2), ("host_state", host), ("tool_version", .str i.toolVersion)]

theorem inputDocument_eq_ok_iff {i : Inputs} {w v : World τ σ} {inputs : Value} :
    (inputDocument i).perform w = (.ok inputs, v) ↔ InputsOn i w.disk w.here inputs ∧ v = w := by
  constructor
  · intro h
    obtain ⟨state, _, hread, h₁⟩ := bind_eq_ok_iff.1 h
    obtain ⟨hstate, rfl⟩ := projectState_eq_ok_iff.1 hread
    cases hhost : i.host with
    | none =>
      rw [hhost] at h₁
      cases h₁
      exact ⟨⟨state, .null, hstate, by rw [hhost]; rfl, by rw [hhost]⟩, rfl⟩
    | some directory =>
      rw [hhost] at h₁
      obtain ⟨state', _, hread', h₂⟩ := bind_eq_ok_iff.1 h₁
      obtain ⟨hstate', rfl⟩ := projectState_eq_ok_iff.1 hread'
      cases h₂
      exact ⟨⟨state, stateDocument state', hstate, by rw [hhost]; exact ⟨state', hstate', rfl⟩,
        by rw [hhost]; rfl⟩, rfl⟩
  · rintro ⟨⟨state, host, hstate, hhost, rfl⟩, rfl⟩
    refine bind_eq_ok_iff.2 ⟨state, v, projectState_eq_ok_iff.2 ⟨hstate, rfl⟩, ?_⟩
    cases hi : i.host with
    | none =>
      rw [hi] at hhost
      obtain rfl : host = .null := hhost
      rfl
    | some directory =>
      rw [hi] at hhost
      obtain ⟨state', hstate', rfl⟩ := hhost
      exact bind_eq_ok_iff.2 ⟨state', v, projectState_eq_ok_iff.2 ⟨hstate', rfl⟩, rfl⟩

/-! What fingerprints tell apart -/

def inputsOf (config : Config) (project : Path) : Inputs :=
  ⟨config.entries, config.minify, config.host, project, toolVersion⟩

/-- The documents of which a build takes fingerprints. -/
inductive Fingerprinted [Depths] (config : Config) (project : Path) (w : World τ σ) : Value → Prop
  | inputs {v : Value} (h : ((inputDocument (inputsOf config project)).perform w).1 = .ok v) :
    Fingerprinted config project w v
  | lock {directory : Path} {v : Value} (hd : directory ∈ projects config project)
    (h : w.disk.document? w.here (directory.child lockName) = .ok (some v)) :
    Fingerprinted config project w v

/-- No two different texts of which builds in the two worlds take fingerprints have the same. -/
def NoCollision [Depths] (config : Config) (project : Path) (w w' : World τ σ) : Prop :=
  ∀ v v' text text', Fingerprinted config project w v → Fingerprinted config project w' v' →
    Canonical.text (.ofJson v) = .ok text → Canonical.text (.ofJson v') = .ok text' →
    Canonical.fingerprintOf text = Canonical.fingerprintOf text' → text = text'

variable {config : Config} {project : Path} {w w' : World τ σ}

theorem NoCollision.encode_eq (h : NoCollision config project w w') {v v' : Value}
    {digest : String} (hv : Fingerprinted config project w v)
    (hv' : Fingerprinted config project w' v')
    (hdigest : Canonical.fingerprint (.ofJson v) = .ok digest)
    (hdigest' : Canonical.fingerprint (.ofJson v') = .ok digest) :
    Canonical.encode (.ofJson v) = Canonical.encode (.ofJson v') := by
  obtain ⟨text, htext, rfl⟩ := Canonical.fingerprint_eq_ok hdigest
  obtain ⟨text', htext', hsame⟩ := Canonical.fingerprint_eq_ok hdigest'
  obtain rfl := h v v' text text' hv hv' htext htext' hsame
  exact Canonical.encode_eq_of_text htext htext'

theorem some_of_getD_ne {doc : Option Value} (h : doc.getD .null ≠ .null) :
    doc = some (doc.getD .null) := by
  cases doc with
  | none => exact absurd rfl h
  | some v => rfl

theorem sameDocuments_of_states (hdistinct : NoCollision config project w w')
    (hhere : w'.here = w.here) {directory : Path} (hd : directory ∈ projects config project)
    {state state' : Value × Value} (h : StateOn w.disk w.here directory state)
    (h' : StateOn w'.disk w'.here directory state')
    (hdependencies : Canonical.encode (.ofJson state.1) = Canonical.encode (.ofJson state'.1))
    (hdigest : Canonical.encode (.ofJson state.2) = Canonical.encode (.ofJson state'.2)) :
    SameDocuments w.disk w'.disk w.here directory := by
  obtain ⟨manifest, lock, hmanifest, hlock, hdeclared, hstands⟩ := h
  obtain ⟨manifest', lock', hmanifest', hlock', hdeclared', hstands'⟩ := h'
  refine ⟨⟨manifest, manifest', hmanifest, hhere ▸ hmanifest', state.1, state'.1, hdeclared,
    hdeclared', hdependencies⟩, lock, lock', hlock, hhere ▸ hlock', ?_⟩
  rcases hstands with ⟨hnull, hs⟩ | ⟨hsome, text, htext, hs⟩
  · rcases hstands' with ⟨hnull', _⟩ | ⟨_, text', _, hs'⟩
    · rw [hnull, hnull']
    · rw [hs, hs'] at hdigest
      cases hdigest
  · rcases hstands' with ⟨_, hs'⟩ | ⟨hsome', text', htext', hs'⟩
    · rw [hs, hs'] at hdigest
      cases hdigest
    · rw [hs, hs'] at hdigest
      have hsame : text = text' := by
        cases hdigest
        rfl
      rw [← hsame] at htext'
      refine hdistinct.encode_eq (.lock hd ?_) (.lock hd ?_) htext htext'
      · rw [hlock, ← some_of_getD_ne hsome]
      · rw [hlock', ← some_of_getD_ne hsome']

theorem encode_states_eq {state state' : Value × Value} {v : Value}
    (h : Canonical.encode (.ofJson (stateDocument state)) = .ok v)
    (h' : Canonical.encode (.ofJson (stateDocument state')) = .ok v) :
    Canonical.encode (.ofJson state.1) = Canonical.encode (.ofJson state'.1) ∧
      Canonical.encode (.ofJson state.2) = Canonical.encode (.ofJson state'.2) := by
  have hmember {k : String} {x y : Value} (hx : (k, x) ∈ _) (hy : (k, y) ∈ _) :=
    Canonical.encode_member_eq (by simp [OrderedMap.keys]) (by simp [OrderedMap.keys]) h h' hx hy
  exact ⟨hmember (k := "dependencies") (by simp) (by simp),
    hmember (k := "lockfile") (by simp) (by simp)⟩

/-- Builds whose inputs have the same fingerprint have projects in the same state. -/
theorem sameDocuments_of_fingerprint (hdistinct : NoCollision config project w w')
    (hhere : w'.here = w.here) {inputs inputs' : Value} {digest : String}
    (h : InputsOn (inputsOf config project) w.disk w.here inputs)
    (h' : InputsOn (inputsOf config project) w'.disk w'.here inputs')
    (hdigest : Canonical.fingerprint (.ofJson inputs) = .ok digest)
    (hdigest' : Canonical.fingerprint (.ofJson inputs') = .ok digest) :
    ∀ directory ∈ projects config project, SameDocuments w.disk w'.disk w.here directory := by
  have hencode := hdistinct.encode_eq
    (.inputs (congrArg Prod.fst (inputDocument_eq_ok_iff.2 ⟨h, rfl⟩)))
    (.inputs (congrArg Prod.fst (inputDocument_eq_ok_iff.2 ⟨h', rfl⟩))) hdigest hdigest'
  obtain ⟨text, htext, _⟩ := Canonical.fingerprint_eq_ok hdigest
  obtain ⟨v, hv, _⟩ := Canonical.text_eq_ok htext
  have hv' := hencode.symm.trans hv
  obtain ⟨state, host, hstate, hhost, rfl⟩ := h
  obtain ⟨state', host', hstate', hhost', rfl⟩ := h'
  have hmember {k : String} {x y : Value} (hx : (k, x) ∈ _) (hy : (k, y) ∈ _) :=
    Canonical.encode_member_eq (by simp [OrderedMap.keys]) (by simp [OrderedMap.keys]) hv hv'
      hx hy
  have hdependencies := hmember (k := "dependencies") (x := state.1) (y := state'.1) (by simp)
    (by simp)
  have hlock := hmember (k := "lockfile") (x := state.2) (y := state'.2) (by simp) (by simp)
  have hhosts := hmember (k := "host_state") (x := host) (y := host') (by simp) (by simp)
  intro directory hd
  rcases List.mem_cons.1 hd with rfl | hd'
  · exact sameDocuments_of_states hdistinct hhere hd hstate hstate' hdependencies hlock
  · have hsome : (inputsOf config project).host = some directory := by simpa [inputsOf] using hd'
    rw [hsome] at hhost hhost'
    obtain ⟨hosted, hon, rfl⟩ := hhost
    obtain ⟨hosted', hon', rfl⟩ := hhost'
    obtain ⟨_, _, _, hmembers⟩ := Canonical.encode_member (by simp [OrderedMap.keys]) hv
    obtain ⟨v', hstands, _⟩ := hmembers ("host_state", stateDocument hosted) (by simp)
    obtain ⟨hdependencies', hlock'⟩ := encode_states_eq hstands (hhosts.symm.trans hstands)
    exact sameDocuments_of_states hdistinct hhere hd hon hon' hdependencies' hlock'

end ExportBundle.Build
