import ExportBundle.Export.Spec
import ExportBundle.Proofs.Export.Tree

/-! What a reading ends with. A reading that ends well yields a value with a known property; one that
fails reports the first of a row of faults, as long as the supply of names does not run out. Both go
through the steps of reading one by one. Main statement: a document that is read at all is read into
a tree whose nodes carry their own fragments. -/

namespace ExportBundle.Export

open Identifier (Supply)

variable {α σ β γ : Type}

/-- Every value that the reading can end with satisfies `P`. -/
def Yields (x : Reading σ β) (P : β → Prop) : Prop :=
  ∀ s a s', x.run.run s = (.ok a, s') → P a

theorem run_bind (x : Reading σ β) (f : β → Reading σ γ) (s : σ) :
    (x >>= f).run.run s =
      match x.run.run s with
      | (.ok a, s') => (f a).run.run s'
      | (.error e, s') => (.error e, s') := by
  rw [ExceptT.run_bind, StateT.run_bind]
  change (match x.run.run s with | (r, s') => _) = _
  rcases x.run.run s with ⟨r | a, s'⟩ <;> rfl

theorem yields_pure {a : β} {P : β → Prop} (h : P a) : Yields (pure a : Reading σ β) P := by
  intro s b s' hr
  cases hr
  exact h

theorem yields_throw (e : SpecError) (P : β → Prop) : Yields (throw e : Reading σ β) P := by
  intro s b s' hr
  cases hr

theorem yields_lift {x : Except SpecError β} {P : β → Prop} (h : ∀ a, x = .ok a → P a) :
    Yields (liftM x : Reading σ β) P := by
  intro s b s' hr
  cases x with
  | error e => cases hr
  | ok a =>
    cases hr
    exact h _ rfl

theorem Yields.bind {x : Reading σ β} {f : β → Reading σ γ} {P : β → Prop} {Q : γ → Prop}
    (hx : Yields x P) (hf : ∀ a, P a → Yields (f a) Q) : Yields (x >>= f) Q := by
  intro s c s' hr
  rw [run_bind] at hr
  rcases h : x.run.run s with ⟨e | a, t⟩
  · rw [h] at hr
    cases hr
  · rw [h] at hr
    exact hf a (hx s a t h) t c s' hr

theorem yields_any (x : Reading σ β) : Yields x fun _ => True := fun _ _ _ _ => trivial

theorem yields_mapM {f : α → Reading σ β} {P : β → Prop} (l : List α)
    (h : ∀ a ∈ l, Yields (f a) P) :
    Yields (l.mapM f) fun r => r.length = l.length ∧ ∀ b ∈ r, P b := by
  induction l with
  | nil => exact yields_pure ⟨rfl, by simp⟩
  | cons a l ih =>
    rw [List.mapM_cons]
    refine (h a (by simp)).bind fun b hb => ?_
    refine (ih fun c hc => h c (List.mem_cons_of_mem a hc)).bind fun r hr => ?_
    refine yields_pure ⟨by simp [hr.1], ?_⟩
    simpa using ⟨hb, hr.2⟩

section

variable [Supply σ]

def supplyAfter : σ → Nat → σ
  | s, 0 => s
  | s, n + 1 => supplyAfter (Supply.draw s).2 n

def Unending (s : σ) : Prop := ∀ n, (Supply.draw (supplyAfter s n)).1.isSome

def nameAt (s : σ) (n : Nat) : Option String := (Supply.draw (supplyAfter s n)).1

def NeverRepeats (s : σ) : Prop :=
  ∀ m n name, nameAt s m = some name → nameAt s n = some name → m = n

theorem Unending.draw {s : σ} (h : Unending s) :
    ∃ name s', Supply.draw s = (some name, s') ∧ Unending s' := by
  obtain ⟨name, hname⟩ := Option.isSome_iff_exists.1 (h 0)
  exact ⟨name, (Supply.draw s).2, Prod.ext hname rfl, fun n => h (n + 1)⟩

/-- Names do not run out, and the reading fails with the first of the faults if there is one and
ends well if there is none. -/
def Reports (x : Reading σ β) (faults : List SpecError) : Prop :=
  ∀ s, Unending s →
    Unending (x.run.run s).2 ∧ ∀ e, (x.run.run s).1 = .error e ↔ faults.head? = some e

theorem reports_pure (a : β) : Reports (pure a : Reading σ β) [] := by
  intro s hs
  exact ⟨hs, fun e => ⟨nofun, nofun⟩⟩

theorem reports_throw (e : SpecError) (faults : List SpecError) :
    Reports (throw e : Reading σ β) (e :: faults) := by
  intro s hs
  refine ⟨hs, fun e' => ?_⟩
  change Except.error e = Except.error e' ↔ some e = some e'
  simp

theorem reports_lift {x : Except SpecError β} {faults : List SpecError}
    (h : ∀ e, x = .error e ↔ faults.head? = some e) : Reports (liftM x : Reading σ β) faults :=
  fun _ hs => ⟨hs, h⟩

theorem reports_drawName : Reports (drawName : Reading σ String) [] := by
  intro s hs
  obtain ⟨name, s', hd, hs'⟩ := hs.draw
  have hr : (drawName : Reading σ String).run.run s = (.ok name, s') := by
    simp only [drawName, ExceptT.run_mk, StateT.run, hd]
  rw [hr]
  refine ⟨hs', fun e => ⟨fun h => ?_, fun h => ?_⟩⟩ <;> cases h

theorem Reports.bind {x : Reading σ β} {f : β → Reading σ γ} {faults more : List SpecError}
    {P : β → Prop} (hx : Reports x faults) (hp : Yields x P) (hf : ∀ a, P a → Reports (f a) more) :
    Reports (x >>= f) (faults ++ more) := by
  intro s hs
  obtain ⟨hs', hfaults⟩ := hx s hs
  rw [run_bind]
  rcases h : x.run.run s with ⟨e | a, t⟩
  · rw [h] at hs' hfaults
    have he : faults.head? = some e := (hfaults e).1 rfl
    refine ⟨hs', fun e' => ?_⟩
    rw [List.head?_append, he]
    change Except.error e = Except.error e' ↔ some e = some e'
    simp
  · rw [h] at hs' hfaults
    have hnone : faults = [] := by
      cases faults with
      | nil => rfl
      | cons e r => cases (hfaults e).2 rfl
    rw [hnone]
    exact hf a (hp s a t h) t hs'

theorem reports_mapM {f : α → Reading σ β} {faults : α → List SpecError} (l : List α)
    (h : ∀ a ∈ l, Reports (f a) (faults a)) : Reports (l.mapM f) (l.flatMap faults) := by
  induction l with
  | nil => exact reports_pure []
  | cons a l ih =>
    rw [List.mapM_cons, List.flatMap_cons]
    refine (h a (by simp)).bind (yields_any _) fun b _ => ?_
    rw [← List.append_nil (l.flatMap faults)]
    refine (ih fun c hc => h c (List.mem_cons_of_mem a hc)).bind (yields_any _) fun r _ => ?_
    exact reports_pure _

end

section

variable [Document α]

theorem requiredText_ok {value : α} {error : String → SpecError} {s : String}
    (h : requiredText value error = .ok s) : Document.text? value = some s ∧ s ≠ "" := by
  unfold requiredText at h
  split at h
  · rename_i t ht
    split at h
    · cases h
    · rename_i hs
      cases h
      exact ⟨ht, by simpa using hs⟩
  · cases h

theorem readName_ok {members : OrderedMap String α} {name : String}
    (h : readName members = .ok name) :
    (members.get? "name").bind Document.text? = some name ∧ name ≠ "" := by
  unfold readName at h
  split at h
  · cases h
  · rename_i value hv
    rw [hv]
    exact requiredText_ok h

theorem readAlias_ok {members : OrderedMap String α} {aliasName : Option String}
    (h : readAlias members = .ok aliasName) :
    aliasName ≠ some "" ∧ (aliasName = none ↔ members.get? "alias" = none) := by
  unfold readAlias at h
  split at h
  · rename_i hm
    cases h
    simp [hm]
  · rename_i value hv
    cases hr : requiredText value SpecError.badAlias with
    | error e =>
      rw [hr] at h
      cases h
    | ok s =>
      rw [hr] at h
      cases h
      simp [hv, (requiredText_ok hr).2]

end

namespace Node

theorem loadFragment_path {n p : Node} (h : p.name ≠ "") :
    n.loadFragment (some p) 1 = .ok (some (n.pathLoad p.name).text) := by
  unfold loadFragment pathLoad ownLoad
  cases hn : n.publicName? with
  | none => rfl
  | some aliasName => simp [bindsAt, hn, h, Load.text]

theorem hoistFragment_path (n : Node) (package : String) :
    n.hoistFragment 1 = (n.pathLoad package).declaration := by
  unfold hoistFragment pathLoad ownLoad
  cases hn : n.publicName? <;> simp [bindsAt, hn, Load.declaration]

theorem loadFragment_package {n : Node} (named : n.children ≠ [] → n.publicName? ≠ none)
    (parent : Option Node) :
    n.loadFragment parent 0 = .ok (if n.children = [] then some n.packageLoad.text else none) := by
  unfold loadFragment packageLoad ownLoad
  by_cases hc : n.children = []
  · cases hn : n.publicName? <;> simp [bindsAt, hn, hc, Load.text]
  · cases hn : n.publicName? with
    | none => exact absurd hn (named hc)
    | some aliasName => simp [bindsAt, hn, hc]

theorem hoistFragment_package (n : Node) :
    n.hoistFragment 0 = if n.children = [] then n.packageLoad.declaration else none := by
  unfold hoistFragment packageLoad ownLoad
  by_cases hc : n.children = [] <;> cases hn : n.publicName? <;>
    simp [bindsAt, hn, hc, Load.declaration]

end Node

theorem finish_path (head : Node) {p : Node} (h : p.name ≠ "") :
    finish head (some p) 1 = .ok { head with
      load := some (head.pathLoad p.name).text
      hoist := (head.pathLoad p.name).declaration } := by
  rw [finish, Node.loadFragment_path h, head.hoistFragment_path p.name]
  rfl

theorem finish_package {head : Node} (named : head.children ≠ [] → head.publicName? ≠ none) :
    finish head none 0 = .ok { head with
      load := if head.children = [] then some head.packageLoad.text else none
      hoist := if head.children = [] then head.packageLoad.declaration else none } := by
  rw [finish, Node.loadFragment_package named, head.hoistFragment_package]
  rfl

section

variable [Document α] [Supply σ]

theorem readLevels_zero_yields (parent : Option Node) (depth : Int) (raw : α) :
    Yields (readLevels 0 parent depth raw : Reading σ (List Node)) fun _ => False := by
  unfold readLevels
  split
  · exact yields_throw _ _
  · exact yields_throw _ _
  · exact yields_throw _ _
  · rename_i h
    cases h

theorem readExport_yields {nested : Node → α → Reading σ (List Node)} {parent : Option Node}
    {depth : Int} {raw : α} {P : String → List Node → Prop} {Q : Node → Prop}
    (hnested : ∀ head raw, head.name ≠ "" → Yields (nested head raw) (P head.name))
    (hfinish : ∀ head n : Node, head.name ≠ "" → head.aliasName ≠ some "" →
      (head.children = [] ∨ P head.name head.children) →
      (head.children ≠ [] → head.aliasName ≠ none) → finish head parent depth = .ok n → Q n) :
    Yields (readExport nested parent depth raw) Q := by
  unfold readExport
  split
  · exact yields_throw _ _
  · refine (yields_lift fun _ => readName_ok).bind fun name hname => ?_
    refine (yields_lift fun _ => readAlias_ok).bind fun aliasName halias => ?_
    refine (yields_any drawName).bind fun id _ => ?_
    split
    · exact yields_lift fun n => hfinish _ n hname.2 halias.1 (.inl rfl) (by simp)
    · refine (hnested _ _ hname.2).bind fun children hchildren => ?_
      split
      · exact yields_throw _ _
      · rename_i hrequired
        refine yields_lift fun n => hfinish _ n hname.2 halias.1 (.inr hchildren) ?_
        intro hne hnone
        simp_all

theorem readLevels_succ_yields {levels : Nat} {parent : Option Node} {depth : Int} {raw : α}
    {P : Node → Prop}
    (h : ∀ raw : α, Yields (readExport (σ := σ)
      (fun head raw => readLevels levels (some head) (depth + 1) raw) parent depth raw) P) :
    Yields (readLevels (levels + 1) parent depth raw : Reading σ (List Node))
      fun nodes => nodes ≠ [] ∧ ∀ n ∈ nodes, P n := by
  unfold readLevels
  split
  · exact yields_throw _ _
  · exact yields_throw _ _
  · rename_i hl
    cases hl
  · rename_i item items levels' _ hl
    cases hl
    intro s nodes s' hr
    have hm := yields_mapM (item :: items) (fun raw _ => h raw) s nodes s' hr
    refine ⟨?_, hm.2⟩
    rintro rfl
    simp at hm

theorem readPaths_yields {p : Node} (h : p.name ≠ "") (raw : α) :
    Yields (readLevels 1 (some p) 1 raw : Reading σ (List Node))
      fun nodes => nodes ≠ [] ∧ ∀ n ∈ nodes, n.IsPath p.name := by
  refine readLevels_succ_yields fun raw => ?_
  refine readExport_yields (P := fun _ _ => False) (fun _ _ _ => readLevels_zero_yields _ _ _) ?_
  intro head n hname halias hleaf _ hn
  have leaf : head.children = [] := hleaf.resolve_right id
  rw [finish_path head h] at hn
  cases hn
  exact ⟨hname, halias, leaf, rfl, rfl⟩

theorem readExports_yields (raw : α) : Yields (readExports raw : Reading σ (List Node)) IsTree := by
  refine readLevels_succ_yields fun raw => ?_
  refine readExport_yields
    (P := fun package nodes => nodes ≠ [] ∧ ∀ n ∈ nodes, n.IsPath package)
    (fun head raw hname => readPaths_yields hname raw) ?_
  intro head n hname halias hchildren hnamed hn
  have named : head.children ≠ [] → head.publicName? ≠ none := by
    rw [Node.publicName?_eq halias]
    exact hnamed
  rw [finish_package named] at hn
  cases hn
  refine ⟨hname, halias, named, ?_, rfl, rfl⟩
  intro c hc
  rcases hchildren with hnone | hpaths
  · simp [hnone] at hc
  · exact hpaths.2 c hc

theorem isTree_of_compile {raw : α} {supply supply' : σ} {nodes : List Node}
    (h : compile raw supply = (.ok nodes, supply')) : IsTree nodes :=
  readExports_yields raw supply nodes supply' h

end

end ExportBundle.Export
