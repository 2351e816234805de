import ExportBundle.Export.Fragment
import Mathlib.Data.List.Basic
import Mathlib.Data.List.Flatten

/-! The trees that reading makes. A package with children has a public name and leaves loading to
them; every other node loads itself, into a binding when it has a public name. Each node carries
its own fragments. -/

namespace ExportBundle.Export

/-- One module to be loaded, and the binding it is loaded into, if any. -/
structure Load where
  binding : Option String
  path : String
  deriving DecidableEq, Repr

namespace Load

def text : Load → String
  | ⟨none, path⟩ => requireCall path
  | ⟨some id, path⟩ => bindingStatement id path

def declaration (l : Load) : Option String := l.binding.map fun id => "var " ++ id

end Load

namespace Node

/-- How a node without children is loaded: a path is sought inside its package only when it gets a
binding. -/
def ownLoad (n : Node) (path : String) : Load :=
  match n.publicName? with
  | none => ⟨none, n.name⟩
  | some _ => ⟨some n.id, path⟩

def packageLoad (n : Node) : Load := n.ownLoad n.name

def pathLoad (package : String) (n : Node) : Load := n.ownLoad (ModulePath.join package n.name)

/-- A path inside `package`, with its fragments. -/
structure IsPath (package : String) (n : Node) : Prop where
  name_ne : n.name ≠ ""
  alias_ne : n.aliasName ≠ some ""
  leaf : n.children = []
  load : n.load = some (n.pathLoad package).text
  hoist : n.hoist = (n.pathLoad package).declaration

/-- A package with its fragments. -/
structure IsPackage (n : Node) : Prop where
  name_ne : n.name ≠ ""
  alias_ne : n.aliasName ≠ some ""
  named : n.children ≠ [] → n.publicName? ≠ none
  paths : ∀ c ∈ n.children, c.IsPath n.name
  load : n.load = if n.children = [] then some n.packageLoad.text else none
  hoist : n.hoist = if n.children = [] then n.packageLoad.declaration else none

def loads (n : Node) : List Load :=
  if n.children = [] then [n.packageLoad] else n.children.map (pathLoad n.name)

end Node

def IsTree (nodes : List Node) : Prop := nodes ≠ [] ∧ ∀ n ∈ nodes, n.IsPackage

/-- All loads of a tree, in the order of its statements. -/
def loads (nodes : List Node) : List Load := nodes.flatMap Node.loads

def bindings (nodes : List Node) : List String := (loads nodes).filterMap Load.binding

namespace Node

theorem nonEmpty?_eq {s : Option String} (h : s ≠ some "") : nonEmpty? s = s := by
  cases s with
  | none => rfl
  | some s =>
    have hs : s.isEmpty = false := by
      rw [Bool.eq_false_iff, ne_eq, String.isEmpty_iff]
      exact fun he => h (by rw [he])
    simp [nonEmpty?, hs]

theorem publicName?_eq {n : Node} (h : n.aliasName ≠ some "") : n.publicName? = n.aliasName :=
  nonEmpty?_eq h

theorem binding_ownLoad {n : Node} {path id : String} :
    (n.ownLoad path).binding = some id ↔ n.publicName? ≠ none ∧ n.id = id := by
  unfold ownLoad
  cases n.publicName? <;> simp

theorem walkAll_eq_flatMap (depth : Nat) (nodes : List Node) :
    walkAll depth nodes = nodes.flatMap (walk depth) := by
  induction nodes with
  | nil => rfl
  | cons n r ih => simp [walkAll, ih]

theorem walk_eq (depth : Nat) (n : Node) : n.walk depth = (n, depth) :: walkAll (depth + 1) n.children := by
  cases n
  rfl

theorem IsPath.walk {package : String} {n : Node} (h : n.IsPath package) (depth : Nat) :
    n.walk depth = [(n, depth)] := by
  rw [walk_eq, h.leaf]
  rfl

theorem IsPackage.walkAll_children {n : Node} (h : n.IsPackage) (depth : Nat) :
    walkAll depth n.children = n.children.map (·, depth) := by
  rw [walkAll_eq_flatMap, List.map_eq_flatMap]
  exact List.flatMap_congr fun c hc => (h.paths c hc).walk depth

end Node

theorem IsTree.forest_eq {nodes : List Node} (h : IsTree nodes) :
    Node.forest nodes = nodes.flatMap fun n => (n, 0) :: n.children.map (·, 1) := by
  rw [Node.forest, Node.walkAll_eq_flatMap]
  apply List.flatMap_congr
  intro n hn
  rw [Node.walk_eq, (h.2 n hn).walkAll_children]

theorem append_ne_empty {s t : String} (h : s ≠ "") : s ++ t ≠ "" := by
  intro he
  exact h (String.append_eq_empty_iff.1 he).1

theorem Load.text_ne (l : Load) : l.text ≠ "" := by
  obtain ⟨binding, path⟩ := l
  cases binding with
  | none => exact append_ne_empty (append_ne_empty (by decide))
  | some id => exact append_ne_empty (append_ne_empty (append_ne_empty (by decide)))

theorem Load.nonEmpty?_text (l : Load) : nonEmpty? (some l.text) = some l.text :=
  Node.nonEmpty?_eq fun h => l.text_ne (Option.some.inj h)

theorem Load.nonEmpty?_declaration (l : Load) : nonEmpty? l.declaration = l.declaration := by
  apply Node.nonEmpty?_eq
  obtain ⟨binding, path⟩ := l
  cases binding with
  | none => simp [declaration]
  | some id =>
    intro h
    exact append_ne_empty (by decide : "var " ≠ "") (Option.some.inj h)

theorem Node.filterMap_walk {β : Type} (n : Node) (fragment : Node → Option β)
    (ofLoad : Load → Option β)
    (own : fragment n = if n.children = [] then ofLoad n.packageLoad else none)
    (below : ∀ c ∈ n.children, fragment c = ofLoad (c.pathLoad n.name)) :
    ((n, 0) :: n.children.map (·, 1)).filterMap (fun e => fragment e.1) =
      n.loads.filterMap ofLoad := by
  have paths : (n.children.map (·, 1)).filterMap (fun e => fragment e.1) =
      (n.children.map (Node.pathLoad n.name)).filterMap ofLoad := by
    rw [List.filterMap_map, List.filterMap_map]
    exact List.filterMap_congr below
  rw [List.filterMap_cons, own, paths, Node.loads]
  by_cases hc : n.children = []
  · cases h : ofLoad n.packageLoad <;> simp [hc, h]
  · simp [hc]

theorem IsTree.filterMap_forest {β : Type} {nodes : List Node} (h : IsTree nodes)
    (fragment : Node → Option β) (ofLoad : Load → Option β)
    (own : ∀ n : Node, n.IsPackage →
      fragment n = if n.children = [] then ofLoad n.packageLoad else none)
    (below : ∀ (package : String) (c : Node), c.IsPath package →
      fragment c = ofLoad (c.pathLoad package)) :
    (Node.forest nodes).filterMap (fun e => fragment e.1) = (loads nodes).filterMap ofLoad := by
  rw [h.forest_eq, loads, List.filterMap_flatMap, List.filterMap_flatMap]
  apply List.flatMap_congr
  intro n hn
  have hp := h.2 n hn
  exact n.filterMap_walk fragment ofLoad (own n hp) fun c hc => below n.name c (hp.paths c hc)

theorem IsTree.loadFragments_eq {nodes : List Node} (h : IsTree nodes) :
    (Node.forest nodes).filterMap (fun e => nonEmpty? e.1.load) = (loads nodes).map Load.text := by
  rw [h.filterMap_forest (fun n => nonEmpty? n.load) (fun l => some l.text)]
  · rw [List.filterMap_eq_map']
  · intro n hn
    rw [hn.load]
    split
    · exact n.packageLoad.nonEmpty?_text
    · rfl
  · intro package c hc
    rw [hc.load]
    exact (c.pathLoad package).nonEmpty?_text

theorem IsTree.loadSource_eq {nodes : List Node} (h : IsTree nodes) :
    loadSource nodes = statements ((loads nodes).map Load.text) :=
  congrArg statements h.loadFragments_eq

theorem IsTree.hoistSource_eq {nodes : List Node} (h : IsTree nodes) :
    hoistSource nodes = statements ((bindings nodes).map ("var " ++ ·)) := by
  rw [hoistSource, h.filterMap_forest (fun n => nonEmpty? n.hoist) Load.declaration]
  · rw [bindings, List.map_filterMap]
    rfl
  · intro n hn
    rw [hn.hoist]
    split
    · exact n.packageLoad.nonEmpty?_declaration
    · rfl
  · intro package c hc
    rw [hc.hoist]
    exact (c.pathLoad package).nonEmpty?_declaration

def Node.rowIds (n : Node) : List String := n.id :: n.children.map Node.id

theorem IsTree.ids_eq {nodes : List Node} (h : IsTree nodes) :
    Node.ids nodes = nodes.flatMap Node.rowIds := by
  rw [Node.ids, h.forest_eq, List.map_flatMap]
  apply List.flatMap_congr
  intro n _
  simp [Node.rowIds]

theorem filterMap_sublist_map {α β : Type} {f : α → Option β} {g : α → β}
    (h : ∀ a b, f a = some b → g a = b) (l : List α) : (l.filterMap f).Sublist (l.map g) := by
  induction l with
  | nil => exact .slnil
  | cons a l ih =>
    rw [List.map_cons]
    cases hf : f a with
    | none =>
      rw [List.filterMap_cons_none hf]
      exact ih.cons (g a)
    | some b =>
      rw [List.filterMap_cons_some hf, h a b hf]
      exact ih.cons_cons b

theorem IsTree.bindings_sublist {nodes : List Node} (h : IsTree nodes) :
    (bindings nodes).Sublist (Node.ids nodes) := by
  rw [h.ids_eq, bindings, loads, List.filterMap_flatMap]
  refine List.Sublist.flatMap_right nodes fun n _ => ?_
  rw [Node.loads]
  split
  · have hown := filterMap_sublist_map (f := fun m : Node => m.packageLoad.binding) (g := Node.id)
      (fun m id hid => (Node.binding_ownLoad.1 hid).2) [n]
    exact hown.trans (List.singleton_sublist.2 (by simp [Node.rowIds]))
  · rw [List.filterMap_map]
    have hpaths := filterMap_sublist_map (f := fun c => (c.pathLoad n.name).binding) (g := Node.id)
      (fun c id hid => (Node.binding_ownLoad.1 hid).2) n.children
    exact hpaths.trans (List.sublist_cons_self n.id _)

end ExportBundle.Export
