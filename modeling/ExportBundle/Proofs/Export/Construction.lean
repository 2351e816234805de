import ExportBundle.Identifier.Random
import ExportBundle.Proofs.Export.Reading
import Mathlib.Data.List.Forall2
import Mathlib.Data.List.Nodup

/-! How a tree is made from a document. Each element becomes one node in the same place, and takes
one name from the supply, before the elements below it take theirs. Main statement: the names of a
tree are the draws of the supply in their order, and the fragments that the nodes were given while
the tree was made are those of the finished nodes. -/

namespace ExportBundle.Export

open Identifier (Random Supply)
open Json (Value)

variable {α σ β γ : Type}

/-! The tree of a document -/

section

variable [Document α]

/-- The node has the name and the public name that the element states. -/
structure IsNamedAs (members : OrderedMap String α) (n : Node) : Prop where
  name : (members.get? "name").bind Document.text? = some n.name
  aliasName : (members.get? "alias").map Document.text? = n.aliasName.map some

/-- The node stands for the element, and its children for the exports of the element. -/
inductive Mirrors : α → Node → Prop
  | leaf {raw : α} {members : OrderedMap String α} {n : Node}
    (hraw : Document.members? raw = some members) (hnamed : IsNamedAs members n)
    (hexports : members.get? "exports" = none) (hchildren : n.children = []) : Mirrors raw n
  | group {raw nested : α} {members : OrderedMap String α} {items : List α} {n : Node}
    (hraw : Document.members? raw = some members) (hnamed : IsNamedAs members n)
    (hexports : members.get? "exports" = some nested)
    (hitems : Document.items? nested = some items)
    (hchildren : List.Forall₂ Mirrors items n.children) : Mirrors raw n

/-- The nodes stand for the items of the list, one for each in their order. -/
def MirrorsList (raw : α) (nodes : List Node) : Prop :=
  ∃ items, Document.items? raw = some items ∧ List.Forall₂ Mirrors items nodes

end

/-- A node of the tree with the node above it and its depth. -/
inductive IsPlaced (nodes : List Node) : Node → Option Node → Int → Prop
  | top {n : Node} (h : n ∈ nodes) : IsPlaced nodes n none 0
  | child {p n : Node} {above : Option Node} {depth : Int} (hp : IsPlaced nodes p above depth)
    (h : n ∈ p.children) : IsPlaced nodes n (some p) (depth + 1)

/-! The names of a tree -/

namespace Node

mutual

theorem map_id_walk (depth depth' : Nat) :
    ∀ n : Node, (n.walk depth).map (·.1.id) = (n.walk depth').map (·.1.id)
  | ⟨id, _, _, children, _, _⟩ => by
    rw [walk, walk, List.map_cons, List.map_cons, map_id_walkAll (depth + 1) (depth' + 1) children]

theorem map_id_walkAll (depth depth' : Nat) :
    ∀ nodes : List Node, (walkAll depth nodes).map (·.1.id) = (walkAll depth' nodes).map (·.1.id)
  | [] => rfl
  | n :: r => by
    rw [walkAll, walkAll, List.map_append, List.map_append, map_id_walk depth depth' n,
      map_id_walkAll depth depth' r]

end

theorem ids_cons (n : Node) (r : List Node) : ids (n :: r) = n.id :: ids n.children ++ ids r := by
  have hbelow : (walkAll 1 n.children).map (·.1.id) = ids n.children := map_id_walkAll 1 0 _
  rw [ids, forest, walkAll, walk_eq, List.map_append, List.map_cons, hbelow]
  rfl

end Node

section

variable [Supply σ]

/-! Drawing names -/

/-- The names are drawn one after the other, which takes the supply from one state to another. -/
inductive Drawn : σ → List String → σ → Prop
  | nil (s : σ) : Drawn s [] s
  | cons {s t u : σ} {name : String} {names : List String}
    (h : Supply.draw s = (some name, t)) (hrest : Drawn t names u) : Drawn s (name :: names) u

theorem Drawn.append {s t u : σ} {names more : List String} (h : Drawn s names t)
    (h' : Drawn t more u) : Drawn s (names ++ more) u := by
  induction h with
  | nil => exact h'
  | cons hdraw _ ih => exact .cons hdraw (ih h')

theorem Drawn.supplyAfter_eq {s t : σ} {names : List String} (h : Drawn s names t) :
    supplyAfter s names.length = t := by
  induction h with
  | nil => rfl
  | cons hdraw _ ih => rw [List.length_cons, supplyAfter, hdraw, ih]

theorem Drawn.getElem?_eq {s t : σ} {names : List String} (h : Drawn s names t) {i : Nat}
    (hi : i < names.length) : names[i]? = nameAt s i := by
  induction h generalizing i with
  | nil => simp at hi
  | cons hdraw _ ih =>
    cases i with
    | zero => rw [nameAt, supplyAfter, hdraw, List.getElem?_cons_zero]
    | succ i =>
      rw [List.getElem?_cons_succ, ih (by simpa using hi), nameAt, nameAt, supplyAfter, hdraw]

theorem Drawn.nodup {s t : σ} {names : List String} (h : Drawn s names t) (hs : NeverRepeats s) :
    names.Nodup := by
  rw [List.nodup_iff_getElem?_ne_getElem?]
  intro i j hij hj hsame
  have hi : i < names.length := by omega
  obtain ⟨name, hname⟩ : ∃ name, names[i]? = some name := ⟨_, List.getElem?_eq_getElem hi⟩
  have hfirst : nameAt s i = some name := by rw [← h.getElem?_eq hi, hname]
  have hsecond : nameAt s j = some name := by rw [← h.getElem?_eq hj, ← hsame, hname]
  have heq := hs i j name hfirst hsecond
  omega

/-- A reading that ends well has drawn names that are related to its value. -/
def Draws (x : Reading σ β) (rel : List String → β → Prop) : Prop :=
  ∀ s b t, x.run.run s = (.ok b, t) → ∃ names, Drawn s names t ∧ rel names b

theorem draws_throw (e : SpecError) (rel : List String → β → Prop) :
    Draws (throw e : Reading σ β) rel := by
  intro s b t h
  cases h

theorem draws_pure {b : β} {rel : List String → β → Prop} (h : rel [] b) :
    Draws (pure b : Reading σ β) rel := by
  intro s b' t hr
  cases hr
  exact ⟨[], .nil s, h⟩

theorem draws_lift {x : Except SpecError β} {rel : List String → β → Prop}
    (h : ∀ b, x = .ok b → rel [] b) : Draws (liftM x : Reading σ β) rel := by
  cases x with
  | error e => exact draws_throw e rel
  | ok b => exact draws_pure (h b rfl)

theorem draws_drawName : Draws (drawName : Reading σ String) fun names name => names = [name] := by
  intro s name t h
  rcases hdraw : Supply.draw s with ⟨_ | name', s'⟩ <;>
    simp only [drawName, ExceptT.run_mk, StateT.run, hdraw] at h <;> cases h
  exact ⟨[name], .cons hdraw (.nil t), rfl⟩

theorem Draws.bind {x : Reading σ β} {f : β → Reading σ γ} {rel : List String → β → Prop}
    {rel' : List String → γ → Prop} (hx : Draws x rel)
    (hf : ∀ names b, rel names b → Draws (f b) fun more c => rel' (names ++ more) c) :
    Draws (x >>= f) rel' := by
  intro s c u h
  rw [run_bind] at h
  rcases hr : x.run.run s with ⟨e | b, t⟩
  · rw [hr] at h
    cases h
  · rw [hr] at h
    obtain ⟨names, hnames, hrel⟩ := hx s b t hr
    obtain ⟨more, hmore, hrel'⟩ := hf names b hrel t c u h
    exact ⟨names ++ more, hnames.append hmore, hrel'⟩

def OwnNames (names : List String) (n : Node) : Prop := names = n.id :: Node.ids n.children

theorem draws_mapM {f : α → Reading σ Node} {rel : α → Node → Prop} (l : List α)
    (h : ∀ a ∈ l, Draws (f a) fun names n => OwnNames names n ∧ rel a n) :
    Draws (l.mapM f) fun names nodes => names = Node.ids nodes ∧ List.Forall₂ rel l nodes := by
  induction l with
  | nil => exact draws_pure ⟨rfl, .nil⟩
  | cons a l ih =>
    rw [List.mapM_cons]
    refine (h a (by simp)).bind fun names n hn => ?_
    refine (ih fun c hc => h c (List.mem_cons_of_mem a hc)).bind fun more nodes hnodes => ?_
    refine draws_pure ⟨?_, .cons hn.2 hnodes.2⟩
    rw [hn.1, hnodes.1, Node.ids_cons, List.append_nil]

variable [Document α]

/-! Reading a document -/

theorem readAlias_map {members : OrderedMap String α} {aliasName : Option String}
    (h : readAlias members = .ok aliasName) :
    (members.get? "alias").map Document.text? = aliasName.map some := by
  unfold readAlias at h
  split at h
  · rename_i hnone
    cases h
    rw [hnone]
    rfl
  · rename_i value hvalue
    cases hr : requiredText value SpecError.badAlias with
    | error e =>
      rw [hr] at h
      cases h
    | ok s =>
      rw [hr] at h
      cases h
      rw [hvalue, Option.map_some, (requiredText_ok hr).1]
      rfl

theorem finish_eq_ok {head n : Node} {parent : Option Node} {depth : Int}
    (h : finish head parent depth = .ok n) : ∃ load hoist, n = { head with load, hoist } := by
  unfold finish at h
  cases hload : head.loadFragment parent depth with
  | error e =>
    rw [hload] at h
    cases h
  | ok load =>
    rw [hload] at h
    cases h
    exact ⟨load, _, rfl⟩

theorem readExport_draws {nested : Node → α → Reading σ (List Node)} {parent : Option Node}
    {depth : Int} {raw : α}
    (hnested : ∀ head raw, Draws (nested head raw) fun names nodes =>
      names = Node.ids nodes ∧ MirrorsList raw nodes) :
    Draws (readExport nested parent depth raw) fun names n => OwnNames names n ∧ Mirrors raw n := by
  unfold readExport
  cases hraw : Document.members? raw with
  | none => exact draws_throw _ _
  | some members =>
    have hreadName : Draws (liftM (readName members) : Reading σ String) fun names name =>
        names = [] ∧ readName members = .ok name := draws_lift fun name hname => ⟨rfl, hname⟩
    refine hreadName.bind ?_
    rintro _ name ⟨rfl, hname⟩
    have hreadAlias : Draws (liftM (readAlias members) : Reading σ (Option String)) fun names a =>
        names = [] ∧ readAlias members = .ok a := draws_lift fun a ha => ⟨rfl, ha⟩
    refine hreadAlias.bind ?_
    rintro _ aliasName ⟨rfl, halias⟩
    refine draws_drawName.bind ?_
    rintro _ id rfl
    have hnamed (children : List Node) (load hoist : Option String) :
        IsNamedAs members ⟨id, name, aliasName, children, load, hoist⟩ :=
      ⟨(readName_ok hname).1, readAlias_map halias⟩
    cases hexports : members.get? "exports" with
    | none =>
      refine draws_lift fun n hn => ?_
      obtain ⟨load, hoist, rfl⟩ := finish_eq_ok hn
      exact ⟨rfl, .leaf hraw (hnamed _ _ _) hexports rfl⟩
    | some list =>
      refine (hnested _ list).bind ?_
      rintro _ children ⟨rfl, items, hitems, hchildren⟩
      split
      · exact draws_throw _ _
      · refine draws_lift fun n hn => ?_
        obtain ⟨load, hoist, rfl⟩ := finish_eq_ok hn
        refine ⟨?_, .group hraw (hnamed _ _ _) hexports hitems hchildren⟩
        simp [OwnNames]

theorem readLevels_draws (levels : Nat) (parent : Option Node) (depth : Int) (raw : α) :
    Draws (readLevels levels parent depth raw : Reading σ (List Node)) fun names nodes =>
      names = Node.ids nodes ∧ MirrorsList raw nodes := by
  induction levels generalizing parent depth raw with
  | zero =>
    intro s nodes t h
    exact (readLevels_zero_yields parent depth raw s nodes t h).elim
  | succ levels ih =>
    unfold readLevels
    cases hraw : Document.items? raw with
    | none => exact draws_throw _ _
    | some items =>
      cases items with
      | nil => exact draws_throw _ _
      | cons item items =>
        intro s nodes t h
        obtain ⟨names, hnames, rfl, hmirrors⟩ := draws_mapM (item :: items)
          (fun raw _ => readExport_draws fun head raw => ih (some head) (depth + 1) raw) s nodes t h
        exact ⟨_, hnames, rfl, item :: items, hraw, hmirrors⟩

theorem compile_draws {raw : α} {s t : σ} {nodes : List Node}
    (h : compile raw s = (.ok nodes, t)) : Drawn s (Node.ids nodes) t ∧ MirrorsList raw nodes := by
  obtain ⟨names, hnames, rfl, hmirrors⟩ := readLevels_draws _ none 0 raw s nodes t h
  exact ⟨hnames, hmirrors⟩

end

/-! The fragments of finished nodes -/

namespace Node

/-- The fragments that the node carries are those that it has at its place, and tell together
whether it has a binding. -/
structure CarriesFragments (n : Node) (parent : Option Node) (depth : Int) : Prop where
  load : n.loadFragment parent depth = .ok n.load
  hoist : n.hoistFragment depth = n.hoist
  declared : (∃ argument, n.load = some ("var " ++ n.id ++ " = require(" ++ argument ++ ")")) ↔
    n.hoist = some ("var " ++ n.id)
  binds : n.hoist = some ("var " ++ n.id) ↔ n.bindsAt depth = true
  unloaded : n.load = none ↔ depth = 0 ∧ n.children ≠ []

theorem bindingStatement_eq (id path : String) :
    bindingStatement id path = "var " ++ id ++ " = require(" ++ Text.jsonQuoted path ++ ")" := by
  have hparts : " = require(" = " = " ++ "require(" := by decide
  simp only [bindingStatement, requireCall, hparts, String.append_assoc]

theorem text_ownLoad_iff (n : Node) (own : String) :
    (∃ argument, (n.ownLoad own).text = "var " ++ n.id ++ " = require(" ++ argument ++ ")") ↔
      (n.ownLoad own).declaration = some ("var " ++ n.id) := by
  unfold ownLoad
  cases n.publicName? with
  | some _ => exact ⟨fun _ => rfl, fun _ => ⟨Text.jsonQuoted own, bindingStatement_eq n.id own⟩⟩
  | none =>
    refine ⟨fun ⟨argument, h⟩ => ?_, nofun⟩
    have hchars := congrArg (fun s => s.toList.head?) h
    simp [Load.text, requireCall] at hchars

theorem hoist_iff_bindsAt (n : Node) (depth : Int) :
    n.hoistFragment depth = some ("var " ++ n.id) ↔ n.bindsAt depth = true := by
  unfold hoistFragment
  split <;> simp_all

theorem IsPath.carriesFragments {p n : Node} (hp : p.name ≠ "") (h : n.IsPath p.name) :
    n.CarriesFragments (some p) 1 := by
  have hhoist : n.hoistFragment 1 = n.hoist := by rw [h.hoist, hoistFragment_path n p.name]
  refine ⟨?_, hhoist, ?_, ?_, ?_⟩
  · rw [h.load, loadFragment_path hp]
  · rw [h.load, h.hoist]
    simpa [pathLoad] using text_ownLoad_iff n _
  · rw [← hhoist]
    exact hoist_iff_bindsAt n 1
  · rw [h.load]
    simp

theorem IsPackage.carriesFragments {n : Node} (h : n.IsPackage) : n.CarriesFragments none 0 := by
  have hhoist : n.hoistFragment 0 = n.hoist := by rw [h.hoist, hoistFragment_package]
  refine ⟨?_, hhoist, ?_, ?_, ?_⟩
  · rw [h.load, loadFragment_package h.named]
  · rw [h.load, h.hoist]
    by_cases hc : n.children = []
    · simpa [hc, packageLoad] using text_ownLoad_iff n n.name
    · simp [hc]
  · rw [← hhoist]
    exact hoist_iff_bindsAt n 0
  · rw [h.load]
    by_cases hc : n.children = [] <;> simp [hc]

end Node

theorem IsTree.placed {nodes : List Node} (h : IsTree nodes) {n : Node} {parent : Option Node}
    {depth : Int} (hn : IsPlaced nodes n parent depth) :
    parent = none ∧ depth = 0 ∧ n ∈ nodes ∨
      ∃ p ∈ nodes, parent = some p ∧ depth = 1 ∧ n ∈ p.children := by
  induction hn with
  | top hmem => exact .inl ⟨rfl, rfl, hmem⟩
  | child _ hmem ih =>
    rcases ih with ⟨_, rfl, htop⟩ | ⟨p, hp, _, _, hbelow⟩
    · exact .inr ⟨_, htop, rfl, rfl, hmem⟩
    · rw [((h.2 p hp).paths _ hbelow).leaf] at hmem
      cases hmem

theorem IsTree.carriesFragments {nodes : List Node} (h : IsTree nodes) {n : Node}
    {parent : Option Node} {depth : Int} (hn : IsPlaced nodes n parent depth) :
    n.CarriesFragments parent depth := by
  rcases h.placed hn with ⟨rfl, rfl, htop⟩ | ⟨p, hp, rfl, rfl, hbelow⟩
  · exact (h.2 n htop).carriesFragments
  · exact ((h.2 p hp).paths n hbelow).carriesFragments (h.2 p hp).name_ne

section

variable [Document α] [Supply σ]

/-- A document that is read becomes a tree with a node for each of its elements, in the same place
and with the same names. The bindings of the nodes, parents before children, are the draws of the
supply, so they are distinct if the supply never repeats a name. The fragments of every node are
those of the finished node at its place below the finished parent: it is loaded into its binding
exactly if the binding is hoisted, which are the nodes that have one, and only packages with
children are not loaded themselves. -/
theorem tree_of_document {raw : α} {s t : σ} {nodes : List Node}
    (h : compile raw s = (.ok nodes, t)) :
    MirrorsList raw nodes ∧
    (∀ i < (Node.ids nodes).length, (Node.ids nodes)[i]? = nameAt s i) ∧
    t = supplyAfter s (Node.ids nodes).length ∧
    (NeverRepeats s → (Node.ids nodes).Nodup) ∧
    ∀ n parent depth, IsPlaced nodes n parent depth → n.CarriesFragments parent depth := by
  obtain ⟨hdrawn, hmirrors⟩ := compile_draws h
  exact ⟨hmirrors, fun i hi => hdrawn.getElem?_eq hi, hdrawn.supplyAfter_eq.symm, hdrawn.nodup,
    fun n parent depth hn => (isTree_of_compile h).carriesFragments hn⟩

end

/-- Two paths below a package, the second of them without a binding, and a package behind them. -/
theorem tree_of_document_nested :
    let _ : Depths := .ofCalls 900
    let raw := Value.arr
      [.obj [("name", .str "left"), ("alias", .str "x"),
          ("exports", .arr [.obj [("name", .str "u"), ("alias", .str "k")],
            .obj [("name", .str "v")]])],
        .obj [("name", .str "pad"), ("alias", .str "y")]]
    let tokens := ["firstfirst", "secondsecond", "thirdthird", "fourthfourth"]
    let u : Node := ⟨"secondsecond", "u", some "k", [],
      some "var secondsecond = require(\"left/u\")", some "var secondsecond"⟩
    let v : Node := ⟨"thirdthird", "v", none, [], some "require(\"v\")", none⟩
    let left : Node := ⟨"firstfirst", "left", some "x", [u, v], none, none⟩
    let pad : Node := ⟨"fourthfourth", "pad", some "y", [],
      some "var fourthfourth = require(\"pad\")", some "var fourthfourth"⟩
    (∃ supply, compile raw (Random.fresh, tokens) = (.ok [left, pad], supply)) ∧
      MirrorsList raw [left, pad] ∧
      (∀ i < 4, tokens[i]? = nameAt (Random.fresh, tokens) i) ∧
      u.CarriesFragments (some left) 1 ∧ v.CarriesFragments (some left) 1 ∧
      left.CarriesFragments none 0 ∧ pad.CarriesFragments none 0 := by
  intro _ raw tokens u v left pad
  obtain ⟨supply, h⟩ : ∃ supply, compile raw (Random.fresh, tokens) = (.ok [left, pad], supply) :=
    ⟨_, rfl⟩
  obtain ⟨hmirrors, hnames, -, -, hfragments⟩ := tree_of_document h
  have htop {n : Node} (hn : n ∈ [left, pad]) : IsPlaced [left, pad] n none 0 := .top hn
  have hbelow {n : Node} (hn : n ∈ [u, v]) : IsPlaced [left, pad] n (some left) 1 :=
    .child (htop (by simp)) hn
  exact ⟨⟨supply, h⟩, hmirrors, hnames, hfragments u _ 1 (hbelow (by simp)),
    hfragments v _ 1 (hbelow (by simp)), hfragments left _ 0 (htop (by simp)),
    hfragments pad _ 0 (htop (by simp))⟩

end ExportBundle.Export
