import ExportBundle.Proofs.Dependency.Replacement
import ExportBundle.Proofs.OrderedMap
import ExportBundle.Proofs.Sorting

/-! Decisions over two maps of versions. Main statement: each package on both sides has one decision,
the one about its two versions, and the decisions stand in the order of the names; so neither the
order of the entries nor what is said about other packages counts. -/

namespace ExportBundle

open Json (Value)

variable {depths : Depths}

/-- No name comes twice, every version can be compared, and what is none can be shown. -/
structure IsVersionMap [Depths] (m : OrderedMap String Value) : Prop where
  distinct : m.keys.Nodup
  legible : ∀ e ∈ m, ∀ v, Version.ofValue e.2 = .ok v → v.Legible
  shown : ∀ e ∈ m, Version.ofValue e.2 ≠ .error .tooDeep

theorem isVersionMap_iff {m : OrderedMap String Value} : IsVersionMap m ↔
    m.keys.Nodup ∧ (∀ e ∈ m, ∀ v ∈ (Version.ofValue e.2).toOption, v.Legible) ∧
      ∀ e ∈ m, Version.ofValue e.2 ≠ .error .tooDeep := by
  refine ⟨fun h => ⟨h.distinct, fun e he v hv => h.legible e he v ?_, h.shown⟩,
    fun h => ⟨h.1, ?_, h.2.2⟩⟩
  · cases hread : Version.ofValue e.2 <;> simp_all [Except.toOption]
  · intro e he v hv
    exact h.2.1 e he v (by simp [hv, Except.toOption])

instance (m : OrderedMap String Value) : Decidable (IsVersionMap m) :=
  decidable_of_iff _ isVersionMap_iff.symm

section Maps

variable {m m' : OrderedMap String Value}

theorem IsVersionMap.mem_of_get? (h : IsVersionMap m) {name : String} {value : Value}
    (hvalue : m.get? name = some value) : (name, value) ∈ m :=
  (OrderedMap.get?_eq_some_iff h.distinct).1 hvalue

end Maps

section Shared

variable {host bundled host' bundled' : OrderedMap String Value}

end Shared

section Deciding

variable {host bundled : OrderedMap String Value}

def settled [Depths] (pair : String × Value × Value) : Decision :=
  ⟨pair.1, pair.2.1, pair.2.2, (isProvided pair.2.1 pair.2.2).toOption.getD false⟩

theorem mapM_eq_ok {α β ε : Type} {f : α → Except ε β} {g : α → β} {l : List α}
    (h : ∀ a ∈ l, f a = .ok (g a)) : l.mapM f = .ok (l.map g) := by
  induction l with
  | nil => rfl
  | cons a r ih =>
    rw [List.mapM_cons, h a List.mem_cons_self, ih fun x hx => h x (List.mem_cons_of_mem a hx)]
    rfl

end Deciding

section Provided

end Provided

section

variable {host bundled : OrderedMap String Value}

end

end ExportBundle
