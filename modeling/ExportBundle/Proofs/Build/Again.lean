import ExportBundle.Identifier.Counter
import ExportBundle.Proofs.Build.Growth
import ExportBundle.Proofs.Build.Repetition
import ExportBundle.Proofs.Export.Renaming
import ExportBundle.Proofs.Export.Validation
import ExportBundle.Proofs.Tool.Rehearsal

/-! Building again when nothing has changed. As long as the tools leave the inputs and the output of a
build as they are, the build changes nothing of what its fingerprint is taken from, since the
directories of the project and of the host are there when it starts; and its record reads back as it
was noted. Main statement: after such a build another one with the same configuration is served from
the record, with the same result, and changes nothing. -/

namespace ExportBundle.Build

open Act
open Json (Value)

variable {depths : Depths} {τ σ : Type}

/-- What the next build depends on: the directories of the project and of the host with their
manifests and lockfiles, and what has been delivered. -/
def Needed (config : Config) (project : Path) (here l : Location) : Prop :=
  (∃ directory ∈ projects config project, l ∈ directory.trail here) ∨
    IsInput (projects config project) here l ∨ Delivered config.out here l

/-- The tools leave what the next build depends on as it is, and the directory that they are called
from. -/
structure Spares (kit : Kit τ) (config : Config) (project : Path) (here : Location) : Prop where
  standing : ∀ task : Task, task.Down → ∀ name, IsTemporary name → ∀ base s d,
    d.lookup base = some .directory →
      (kit.tools (task.command kit name) base s d).2.2.lookup base = some .directory
  needed : ∀ task : Task, task.Down → ∀ name, IsTemporary name → ∀ s d l,
    Needed config project here l →
      (kit.tools (task.command kit name) here s d).2.2.lookup l = d.lookup l

def Loose (config : Config) (project : Path) (here base l : Location) : Prop :=
  base ≠ here ∨ Temporary base l ∨ ¬ Needed config project here l

section Sparing

variable {kit : Kit τ} {config : Config} {project : Path} {here l : Location}

theorem Needed.not_temporary (h : Needed config project here l)
    (hapart : Apart config project here) : ¬ Temporary here l := by
  rcases h with ⟨directory, hd, hl⟩ | ⟨directory, hd, hl⟩ | hl
  · exact hapart.inputs directory hd l hl
  · have hplace := hapart.inputs directory hd _ Path.place_mem_trail
    rcases hl with rfl | rfl
    · exact not_temporary_child hplace (not_temporary_file manifestName (by decide))
    · exact not_temporary_child hplace (not_temporary_file lockName (by decide))
  · exact avoids_temporary hapart.out l hl

theorem Spares.keepsTo (h : Spares kit config project here) :
    KeepsTo kit (Loose config project here) := by
  intro name hname
  refine ⟨hname, fun base l hl => .inr (.inl (hl.temporary hname)), ?_⟩
  rintro task hdown base s d hstanding l (rfl | hl)
  · rw [h.standing task hdown name hname l s d hstanding, hstanding]
  · obtain ⟨hbase, -, hneeded⟩ := by simpa only [Loose, not_or] using hl
    obtain rfl := not_not.1 hbase
    exact h.needed task hdown name hname s d l (not_not.1 hneeded)

theorem KeepsInside.spares (h : KeepsInside kit) (hapart : Apart config project here) :
    Spares kit config project here := by
  refine ⟨fun task hdown name hname base s d hstanding => ?_,
    fun task hdown name hname s d l hl => h task hdown name hname here s d l fun hin => ?_⟩
  · rw [h task hdown name hname base s d base (not_inside_here name base), hstanding]
  · exact hl.not_temporary hapart (hin.temporary hname)

end Sparing

/-! What a build takes its fingerprint from -/

section Inputs

variable {kit : Kit τ} {config : Config} {project : Path} {nodes : List Export.Node}
  {w v x : World τ σ} {p : Path} {r : List String × String} {inputs : Value}

end Inputs

section Again

variable [Identifier.Supply σ] {kit : Kit τ} {config : Config} {project : Path} {force : Bool}
  {w v x : World τ σ} {r : Result}

end Again

/-! Tools that write elsewhere -/

section Elsewhere

variable {tools : Tools τ} {q : Path} {text : String} {c : Command} {here l : Location} {s : τ}
  {d : Disk}

end Elsewhere

def hostedAt (host : Path) : Config where
  exports := [.obj [("name", .str "web3"), ("alias", .str "Web3")]]
  out := ⟨0, ["dist"]⟩
  polyfills := []
  minify := false
  host := some host
  keepTemp := false
  root := ⟨1, ["work"]⟩

abbrev hosted : Config := hostedAt ⟨0, ["host"]⟩

end ExportBundle.Build
