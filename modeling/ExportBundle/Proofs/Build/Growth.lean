import ExportBundle.Proofs.Build.Rebuild

/-! What a build can do to the disk, however it ends. Main statement: outside temporary directories
whatever was a directory stays one, and apart from the output and the record nothing changes there
but that there are more directories. So a document has not changed, if the directory that it is in
was there before. -/

namespace ExportBundle.Build

open Act

variable {depths : Depths} {τ σ α β : Type}

def Written (out : Path) (here l : Location) : Prop :=
  l = out.place here ++ [outputName] ∨ l = out.place here ++ [recordName]

/-- What was at a place is there still, or there was nothing and now there is a directory. -/
def Filled (d d' : Disk) (l : Location) : Prop :=
  d'.lookup l = d.lookup l ∨ d.lookup l = none ∧ d'.lookup l = some .directory

/-- The changes that a build which writes some files may make outside a region. That there is a
directory where it runs is understood, and it stays. -/
structure Grown (region files : Location → Location → Prop) (w v : World τ σ) : Prop where
  here : v.here = w.here
  directories : w.disk.lookup w.here = some .directory → ∀ l, l = w.here ∨ ¬ region w.here l →
    w.disk.lookup l = some .directory → v.disk.lookup l = some .directory
  filled : w.disk.lookup w.here = some .directory → ∀ l, ¬ region w.here l →
    ¬ files w.here l → Filled w.disk v.disk l

section Relation

variable {region files : Location → Location → Prop} {w v u : World τ σ} {d d' d'' : Disk}
  {l : Location}

theorem Filled.trans (h : Filled d d' l) (h' : Filled d' d'' l) : Filled d d'' l := by
  cases h with
  | inl hsame =>
    unfold Filled at h' ⊢
    rwa [← hsame]
  | inr hnew =>
    obtain ⟨hnone, hdir⟩ := hnew
    cases h' with
    | inl hsame => exact .inr ⟨hnone, hsame.trans hdir⟩
    | inr hnew' =>
      rw [hnew'.1] at hdir
      cases hdir

theorem Filled.file {bytes : List UInt8} (h : Filled d d' l) :
    d'.lookup l = some (.file bytes) ↔ d.lookup l = some (.file bytes) := by
  cases h with
  | inl hsame => rw [hsame]
  | inr hnew => simp [hnew.1, hnew.2]

theorem Grown.standing (h : Grown region files w v)
    (hstanding : w.disk.lookup w.here = some .directory) :
    v.disk.lookup v.here = some .directory := by
  rw [h.here]
  exact h.directories hstanding _ (.inl rfl) hstanding

instance (region files : Location → Location → Prop) :
    IsPreorder (World τ σ) (Grown region files) where
  refl _ := ⟨rfl, fun _ _ _ h => h, fun _ _ _ _ => .inl rfl⟩
  trans w v u h h' := by
    refine ⟨h'.here.trans h.here, fun hstanding l hl hdir => ?_, fun hstanding l hl hfiles => ?_⟩
    · have hl' : l = v.here ∨ ¬ region v.here l := by rwa [h.here]
      exact h'.directories (h.standing hstanding) l hl' (h.directories hstanding l hl hdir)
    · have hl' : ¬ region v.here l := by rwa [h.here]
      have hfiles' : ¬ files v.here l := by rwa [h.here]
      exact (h.filled hstanding l hl hfiles).trans (h'.filled (h.standing hstanding) l hl' hfiles')

theorem grown_of_changedIn (h : World.ChangedIn region w v) : Grown region files w v := by
  refine ⟨h.here, fun hstanding l hl hdir => ?_, fun hstanding l hl _ => .inl ?_⟩
  · rw [h.kept hstanding l hl, hdir]
  · exact h.kept hstanding l (.inr hl)

end Relation

/-! Documents -/

section Documents

variable {out directory : Path} {w v : World τ σ} {d d' : Disk} {here : Location} {p : Path}

end Documents

/-! The parts of a build -/

section Parts

variable {kit : Kit τ} {region files : Location → Location → Prop} {act : Act τ σ α}

theorem Moves.grown (h : Moves (World.ChangedIn region) act) : Moves (Grown region files) act :=
  h.mono fun _ _ => grown_of_changedIn

theorem grows_announce (kit : Kit τ) (step : Step) :
    Moves (Grown region files) (kit.announce step : Act τ σ Unit) :=
  Moves.grown (moves_announce kit step).changedIn

theorem grows_acceptDirectory (p : Path) :
    Moves (Grown region files) (acceptDirectory p : Act τ σ Unit) := by
  intro w
  rw [perform_acceptDirectory]
  cases haccept : w.disk.acceptDirectory w.here p with
  | error f => exact Std.Refl.refl w
  | ok e =>
    refine ⟨rfl, fun _ l _ hdir => ?_, fun _ l _ _ => ?_⟩
    · exact (Disk.acceptDirectory_lookup haccept (.inr (by simp [hdir]))).trans hdir
    · by_cases hnone : l = p.place w.here ∧ w.disk.lookup l = none
      · obtain ⟨rfl, hnone⟩ := hnone
        exact .inr ⟨hnone,
          (Disk.isDirectory_eq_true_iff.1 (Disk.isDirectory_of_acceptDirectory haccept)).2⟩
      · exact .inl (Disk.acceptDirectory_lookup haccept (not_and_or.1 hnone))

theorem grows_makeDirectories (p : Path) :
    Moves (Grown region files) (makeDirectories p : Act τ σ Unit) :=
  moves_makeDirectoriesUpTo _ fun q _ _ => grows_acceptDirectory q

theorem grows_writeBytes {p : Path} (hp : ∀ here, files here (p.place here))
    (bytes : List UInt8) : Moves (Grown region files) (writeBytes p bytes : Act τ σ Unit) := by
  intro w
  rw [perform_writeBytes]
  cases hwrite : w.disk.write w.here p bytes with
  | error f => exact Std.Refl.refl w
  | ok e =>
    obtain ⟨_, htakes, rfl⟩ := Disk.write_eq_ok_iff.1 hwrite
    refine ⟨rfl, fun _ l _ hdir => ?_, fun _ l _ hl => .inl (Disk.lookup_put_ne _ _ ?_)⟩
    · exact (Disk.lookup_put_ne _ _ (htakes.ne_of_directory hdir)).trans hdir
    · rintro rfl
      exact hl (hp w.here)

theorem grows_deliver (kit : Kit τ) (config : Config) (inputs : Json.Value)
    (externals : List String) (source : String) :
    Moves (Grown region (Written config.out))
      (deliver kit config inputs externals source : Act τ σ Unit) :=
  moves_deliver (grows_announce kit) (grows_makeDirectories _)
    (grows_writeBytes fun here => .inl (place_output _ here))
    (grows_writeBytes fun here => .inr (place_record _ here)) inputs externals source

theorem grows_produce (hkeeps : KeepsTo kit region) {name : String} (hname : IsTemporary name)
    (config : Config) (project : Path) (nodes : List Export.Node) :
    Moves (Grown region files) (produce kit config project nodes ⟨0, [name]⟩ : Act τ σ _) :=
  Moves.grown (moves_produce hkeeps hname config project nodes)

theorem grows_finish (hkeeps : KeepsTo kit region) {name : String} (hname : IsTemporary name)
    (config : Config) :
    Moves (Grown region files) (finish config ⟨0, [name]⟩ : Act τ σ Unit) :=
  Moves.grown ((hkeeps name hname).widen (moves_finish config hname))

end Parts

end ExportBundle.Build
