import ExportBundle.Export.Properties
import ExportBundle.Identifier.Random
import ExportBundle.Proofs.Export.Reading
import ExportBundle.Proofs.Export.Statements
import ExportBundle.Proofs.OrderedMap

/-! The bindings that the exported object refers to. Main statement: hoisting, loading and exporting
agree on the bindings of a tree, and the exported object leaves out those that are shadowed and no
other. -/

namespace ExportBundle.Export

open Identifier (isLetter IsSafeName Supply Random)
open Json (Value)

/-- The name that a line of the exported object refers to: the letters before the comma that ends
the line. -/
def referredOn (line : List Char) : Option String :=
  match line.reverse with
  | ',' :: rest =>
    if rest.takeWhile isLetter = [] then none
    else some (String.ofList (rest.takeWhile isLetter).reverse)
  | _ => none

def referredNames (source : String) : List String := (linesOf source).filterMap referredOn

/-- Where the node `id` stands in a tree: its package, and the node itself when it is a path, each
with the nodes that follow it in its row. -/
inductive Stands (nodes : List Node) (id : String) : List (Node × List Node) → Prop
  | package {before after : List Node} {n : Node} (row : nodes = before ++ n :: after)
      (leaf : n.children = []) (own : n.id = id) : Stands nodes id [(n, after)]
  | path {before after left right : List Node} {n c : Node} (row : nodes = before ++ n :: after)
      (inner : n.children = left ++ c :: right) (own : c.id = id) :
      Stands nodes id [(n, after), (c, right)]

/-- The node `id`, or the package that it is in, is followed in its row by one with its alias. -/
def Shadowed (nodes : List Node) (id : String) : Prop :=
  ∃ place, Stands nodes id place ∧ ∃ e ∈ place, ∃ m ∈ e.2, m.aliasName = e.1.aliasName

section Places

theorem eq_of_mem_split {α β : Type} {f : α → List β} {u u' v v' : List α} {a a' : α} {x : β}
    (h : ((u ++ a :: v).flatMap f).Nodup) (hsplit : u ++ a :: v = u' ++ a' :: v')
    (ha : x ∈ f a) (ha' : x ∈ f a') : a = a' ∧ v = v' := by
  induction u generalizing u' with
  | nil =>
    cases u' with
    | nil => exact List.cons.inj hsplit
    | cons b u' =>
      obtain ⟨rfl, rfl⟩ := List.cons.inj hsplit
      rw [List.nil_append, List.flatMap_cons, List.nodup_append] at h
      exact absurd rfl (h.2.2 x ha x (by simpa using .inr (.inl ha')))
  | cons b u ih =>
    cases u' with
    | nil =>
      obtain ⟨rfl, rfl⟩ := List.cons.inj hsplit
      rw [List.cons_append, List.flatMap_cons, List.nodup_append] at h
      exact absurd rfl (h.2.2 x ha' x (by simpa using .inr (.inl ha)))
    | cons b' u' =>
      obtain ⟨rfl, htail⟩ := List.cons.inj hsplit
      rw [List.cons_append, List.flatMap_cons, List.nodup_append] at h
      exact ih h.2.1 htail

theorem Stands.unique {nodes : List Node} (hids : (nodes.flatMap Node.rowIds).Nodup) {id : String}
    {place place' : List (Node × List Node)} (h : Stands nodes id place)
    (h' : Stands nodes id place') : place = place' := by
  have own {n : Node} (hn : n.id = id) : id ∈ n.rowIds := by simp [Node.rowIds, hn]
  have inner {n c : Node} {left right : List Node} (hc : n.children = left ++ c :: right)
      (hown : c.id = id) : id ∈ n.rowIds := by simp [Node.rowIds, hc, hown]
  cases h with
  | package row leaf hown =>
    subst row
    cases h' with
    | package row' leaf' hown' =>
      obtain ⟨rfl, rfl⟩ := eq_of_mem_split hids row' (own hown) (own hown')
      rfl
    | path row' inner' hown' =>
      obtain ⟨rfl, rfl⟩ := eq_of_mem_split hids row' (own hown) (inner inner' hown')
      simp [leaf] at inner'
  | @path _ _ _ _ n _ row hinner hown =>
    subst row
    cases h' with
    | package row' leaf' hown' =>
      obtain ⟨rfl, rfl⟩ := eq_of_mem_split hids row' (inner hinner hown) (own hown')
      simp [leaf'] at hinner
    | path row' inner' hown' =>
      obtain ⟨rfl, rfl⟩ := eq_of_mem_split hids row' (inner hinner hown) (inner inner' hown')
      have hrow : n.rowIds.Nodup := by
        rw [List.flatMap_append, List.flatMap_cons, List.nodup_append] at hids
        exact (List.nodup_append.1 hids.2.1).1
      have hpaths : ((n.children).flatMap fun c => [c.id]).Nodup := by
        rw [← List.map_eq_flatMap]
        exact (List.nodup_cons.1 hrow).2
      rw [hinner] at hpaths inner'
      obtain ⟨rfl, rfl⟩ := eq_of_mem_split (x := id) hpaths inner' (by simp [hown]) (by simp [hown'])
      rfl

theorem Stands.publicName?_eq {nodes : List Node} (h : IsTree nodes) {id : String}
    {place : List (Node × List Node)} (hs : Stands nodes id place) :
    ∀ e ∈ place, e.1.publicName? = e.1.aliasName ∧
      ∀ m ∈ e.2, m.publicName? = m.aliasName := by
  have top : ∀ m ∈ nodes, m.publicName? = m.aliasName :=
    fun m hm => Node.publicName?_eq (h.2 m hm).alias_ne
  cases hs with
  | package row leaf own =>
    subst row
    simp_all
  | @path before after left right n c row inner own =>
    subst row
    have below : ∀ m ∈ n.children, m.publicName? = m.aliasName :=
      fun m hm => Node.publicName?_eq ((h.2 n (by simp)).paths m hm).alias_ne
    rw [inner] at below
    simp_all

end Places

section Bound

theorem IsTree.mem_bindings {nodes : List Node} (h : IsTree nodes) {id : String} :
    id ∈ bindings nodes ↔
      ∃ place, Stands nodes id place ∧ ∀ e ∈ place, e.1.publicName? ≠ none := by
  rw [bindings, List.mem_filterMap]
  constructor
  · rintro ⟨l, hl, hid⟩
    obtain ⟨n, hn, hl⟩ := List.mem_flatMap.1 hl
    obtain ⟨before, after, row⟩ := List.append_of_mem hn
    rw [Node.loads] at hl
    split at hl
    · rename_i leaf
      obtain rfl := List.mem_singleton.1 hl
      obtain ⟨hname, hown⟩ := Node.binding_ownLoad.1 hid
      exact ⟨_, .package row leaf hown, by simpa using hname⟩
    · rename_i hne
      obtain ⟨c, hc, rfl⟩ := List.mem_map.1 hl
      obtain ⟨left, right, inner⟩ := List.append_of_mem hc
      obtain ⟨hname, hown⟩ := Node.binding_ownLoad.1 hid
      exact ⟨_, .path row inner hown, by simpa using ⟨(h.2 n hn).named hne, hname⟩⟩
  · rintro ⟨place, hplace, hnamed⟩
    cases hplace with
    | @package before after n row leaf own =>
      have hn : n ∈ nodes := by simp [row]
      refine ⟨n.packageLoad, List.mem_flatMap.2 ⟨n, hn, ?_⟩, ?_⟩
      · simp [Node.loads, leaf]
      · exact Node.binding_ownLoad.2 ⟨hnamed (n, after) (by simp), own⟩
    | @path before after left right n c row inner own =>
      have hn : n ∈ nodes := by simp [row]
      refine ⟨c.pathLoad n.name, List.mem_flatMap.2 ⟨n, hn, ?_⟩, ?_⟩
      · simp [Node.loads, inner]
      · exact Node.binding_ownLoad.2 ⟨hnamed (c, right) (by simp), own⟩

end Bound

section Referred

def entries (nodes : List Node) : List (String × Property) :=
  nodes.filterMap fun n => n.publicName?.map fun aliasName => (aliasName, (n.property aliasName).1)

theorem collect_fst (level : Level) (before : OrderedMap String Property) (nodes : List Node) :
    (collect level before nodes).1 = (entries nodes).foldl (fun m e => m.put e.1 e.2) before := by
  induction nodes generalizing before with
  | nil => rfl
  | cons n r ih =>
    rw [collect, entries, List.filterMap_cons]
    cases n.publicName? with
    | none => exact ih before
    | some aliasName => exact ih (before.put aliasName (n.property aliasName).1)

theorem properties_fst (nodes : List Node) :
    (properties nodes).1 = OrderedMap.ofEntries (entries nodes) := collect_fst .top [] nodes

theorem Node.property_leaf {n : Node} (h : n.children = []) (aliasName : String) :
    (n.property aliasName).1 = .binding n.id := by
  obtain ⟨id, name, a, children, load, hoist⟩ := n
  subst h
  rfl

theorem Node.property_group {n : Node} (h : n.children ≠ []) (aliasName : String) :
    (n.property aliasName).1 = .group (OrderedMap.ofEntries (entries n.children)) := by
  obtain ⟨id, name, a, children, load, hoist⟩ := n
  cases children with
  | nil => exact absurd rfl h
  | cons c r =>
    rw [property]
    exact congrArg Property.group (collect_fst _ [] (c :: r))

theorem mem_ofEntries_entries {nodes : List Node} {k : String} {p : Property} :
    (k, p) ∈ OrderedMap.ofEntries (entries nodes) ↔
      ∃ before n after, nodes = before ++ n :: after ∧ n.publicName? = some k ∧
        (n.property k).1 = p ∧ ∀ m ∈ after, m.publicName? ≠ some k := by
  rw [OrderedMap.mem_ofEntries]
  constructor
  · rintro ⟨u, v, hsplit, hlast⟩
    obtain ⟨before, rest, rfl, -, hrest⟩ := List.filterMap_eq_append_iff.1 hsplit
    obtain ⟨skipped, n, after, rfl, -, hn, hafter⟩ := List.filterMap_eq_cons_iff.1 hrest
    obtain ⟨aliasName, hname, he⟩ := Option.map_eq_some_iff.1 hn
    obtain ⟨rfl, hp⟩ := Prod.mk.inj he
    refine ⟨before ++ skipped, n, after, by simp, hname, hp, ?_⟩
    intro m hm hmname
    refine hlast (aliasName, (m.property aliasName).1) ?_ rfl
    rw [← hafter, List.mem_filterMap]
    exact ⟨m, hm, by simp [hmname]⟩
  · rintro ⟨before, n, after, rfl, hname, rfl, hlast⟩
    refine ⟨entries before, entries after, ?_, ?_⟩
    · simp [entries, hname]
    · intro e he hk
      obtain ⟨m, hm, hme⟩ := List.mem_filterMap.1 he
      obtain ⟨aliasName, hmname, rfl⟩ := Option.map_eq_some_iff.1 hme
      exact hlast m hm (hmname.trans (congrArg some hk))

namespace Property

def binding? : Property → Option String
  | .binding id => some id
  | .group _ => none

def references : Property → List String
  | .binding id => [id]
  | .group members => members.filterMap fun m => m.2.binding?

end Property

/-- A node is referred to when no later node of its row takes its public name, and none takes that
of its package. -/
theorem IsTree.mem_references {nodes : List Node} (h : IsTree nodes) {id : String} :
    id ∈ (properties nodes).1.flatMap (fun e => e.2.references) ↔
      ∃ place, Stands nodes id place ∧ ∀ e ∈ place, e.1.publicName? ≠ none ∧
        ∀ m ∈ e.2, m.publicName? ≠ e.1.publicName? := by
  rw [properties_fst, List.mem_flatMap]
  constructor
  -- A map keeps the last entry with a key: being listed is having no namesake behind, at both levels.
  · rintro ⟨⟨k, p⟩, hp, hid⟩
    obtain ⟨before, n, after, row, hk, rfl, hlast⟩ := mem_ofEntries_entries.1 hp
    by_cases hc : n.children = []
    · rw [Node.property_leaf hc] at hid
      obtain rfl := List.mem_singleton.1 hid
      exact ⟨_, .package row hc rfl, by simpa [hk] using hlast⟩
    · rw [Node.property_group hc] at hid
      obtain ⟨⟨k', p'⟩, hp', hid⟩ := List.mem_filterMap.1 hid
      obtain ⟨left, c, right, inner, hk', rfl, hlast'⟩ := mem_ofEntries_entries.1 hp'
      have hpath : c.IsPath n.name := (h.2 n (by simp [row])).paths c (by simp [inner])
      rw [Node.property_leaf hpath.leaf] at hid
      exact ⟨_, .path row inner (Option.some.inj hid), by simpa [hk, hk'] using ⟨hlast, hlast'⟩⟩
  · rintro ⟨place, hplace, hlast⟩
    cases hplace with
    | @package before after n row leaf own =>
      obtain ⟨hk, hafter⟩ := hlast (n, after) (by simp)
      obtain ⟨k, hk⟩ := Option.ne_none_iff_exists'.1 hk
      refine ⟨_, mem_ofEntries_entries.2 ⟨before, n, after, row, hk, rfl, ?_⟩, ?_⟩
      · rwa [hk] at hafter
      · simp [Node.property_leaf leaf, Property.references, own]
    | @path before after left right n c row inner own =>
      obtain ⟨hk, hafter⟩ := hlast (n, after) (by simp)
      obtain ⟨hk', hright⟩ := hlast (c, right) (by simp)
      obtain ⟨k, hk⟩ := Option.ne_none_iff_exists'.1 hk
      obtain ⟨k', hk'⟩ := Option.ne_none_iff_exists'.1 hk'
      have hne : n.children ≠ [] := by simp [inner]
      have hpath : c.IsPath n.name := (h.2 n (by simp [row])).paths c (by simp [inner])
      refine ⟨_, mem_ofEntries_entries.2 ⟨before, n, after, row, hk, rfl, ?_⟩, ?_⟩
      · rwa [hk] at hafter
      · simp only [Node.property_group hne, Property.references, List.mem_filterMap]
        refine ⟨_, mem_ofEntries_entries.2 ⟨left, c, right, inner, hk', rfl, ?_⟩, ?_⟩
        · rwa [hk'] at hright
        · simp [Node.property_leaf hpath.leaf, Property.binding?, own]

end Referred

section Text

theorem referredOn_value (front : List Char) {id : String} (h : IsSafeName id) :
    referredOn (front ++ ' ' :: (id.toList ++ [','])) = some id := by
  have hrev : (front ++ ' ' :: (id.toList ++ [','])).reverse =
      ',' :: (id.toList.reverse ++ ' ' :: front.reverse) := by simp
  have htake : (id.toList.reverse ++ ' ' :: front.reverse).takeWhile isLetter =
      id.toList.reverse := by
    rw [List.takeWhile_append_of_pos (by simpa using h.letters),
      List.takeWhile_cons_of_neg (by decide), List.append_nil]
  rw [referredOn, hrev]
  simp only [htake]
  rw [if_neg (by simpa using h.ne)]
  simp

def Property.IsPlain : Property → Prop
  | .binding id => IsSafeName id
  | .group members => ∀ m ∈ members, ∃ id, m.2 = .binding id ∧ IsSafeName id

theorem referredOn_line (indent key : String) {id : String} (h : IsSafeName id) :
    referredOn (indent ++ Text.jsonQuoted key ++ ": " ++ id ++ ",").toList = some id := by
  have hline : (indent ++ Text.jsonQuoted key ++ ": " ++ id ++ ",").toList =
      (indent ++ Text.jsonQuoted key ++ ":").toList ++ ' ' :: (id.toList ++ [',']) := by simp
  rw [hline, referredOn_value _ h]

theorem newline_notMem_line {indent : String} (hindent : '\n' ∉ indent.toList) (key : String)
    {id : String} (h : IsSafeName id) :
    '\n' ∉ (indent ++ Text.jsonQuoted key ++ ": " ++ id ++ ",").toList := by
  have hkey := Text.newline_notMem_jsonQuoted key
  have hid : '\n' ∉ id.toList := Identifier.notMem_of_letters h.letters (by decide)
  simp_all

theorem referredOn_open (key : String) :
    (referredOn ∘ String.toList) ("  " ++ Text.jsonQuoted key ++ ": \x7b") = none := by
  have hrev : ("  " ++ Text.jsonQuoted key ++ ": \x7b").toList.reverse =
      '\x7b' :: ("  " ++ Text.jsonQuoted key ++ ": ").toList.reverse := by simp
  rw [Function.comp_apply, referredOn, hrev]
  rfl

theorem filterMap_propertyLines {e : String × Property} (h : e.2.IsPlain) :
    (propertyLines e).filterMap (referredOn ∘ String.toList) = e.2.references := by
  obtain ⟨key, p⟩ := e
  cases p with
  | binding id =>
    have hsafe : IsSafeName id := h
    change List.filterMap _ ["  " ++ Text.jsonQuoted key ++ ": " ++ id ++ ","] = [id]
    rw [List.filterMap_cons_some (b := id), List.filterMap_nil]
    rw [Function.comp_apply]
    exact referredOn_line "  " key hsafe
  | group members =>
    have hclose : (referredOn ∘ String.toList) "  \x7d," = none := by decide
    change List.filterMap _ (_ :: members.map memberLine ++ _) = _
    rw [List.cons_append, List.filterMap_cons_none (referredOn_open key), List.filterMap_append,
      List.filterMap_cons_none hclose, List.filterMap_nil, List.append_nil, List.filterMap_map]
    refine List.filterMap_congr fun m hm => ?_
    obtain ⟨id, hid, hsafe⟩ := h m hm
    obtain ⟨key', p'⟩ := m
    obtain rfl := hid
    simp only [Function.comp_apply, memberLine, Property.value, Property.binding?]
    exact referredOn_line "    " key' hsafe

theorem newline_notMem_propertyLines {e : String × Property} (h : e.2.IsPlain) :
    ∀ line ∈ propertyLines e, '\n' ∉ line.toList := by
  obtain ⟨key, p⟩ := e
  have hkey := Text.newline_notMem_jsonQuoted key
  intro line hline
  cases p with
  | binding id =>
    obtain rfl := List.mem_singleton.1 hline
    exact newline_notMem_line (by decide) key h
  | group members =>
    rcases List.mem_append.1 hline with hline | hline
    · rcases List.mem_cons.1 hline with rfl | hline
      · simp [hkey]
      · obtain ⟨m, hm, rfl⟩ := List.mem_map.1 hline
        obtain ⟨id, hid, hsafe⟩ := h m hm
        obtain ⟨key', p'⟩ := m
        obtain rfl := hid
        exact newline_notMem_line (by decide) key' hsafe
    · obtain rfl := List.mem_singleton.1 hline
      decide

theorem IsTree.isPlain {nodes : List Node} (h : IsTree nodes)
    (hids : ∀ id ∈ Node.ids nodes, IsSafeName id) : ∀ e ∈ (properties nodes).1, e.2.IsPlain := by
  rw [h.ids_eq] at hids
  rintro ⟨k, p⟩ he
  rw [properties_fst] at he
  obtain ⟨before, n, after, row, -, rfl, -⟩ := mem_ofEntries_entries.1 he
  have hn : n ∈ nodes := by simp [row]
  by_cases hc : n.children = []
  · rw [Node.property_leaf hc]
    exact hids n.id (List.mem_flatMap.2 ⟨n, hn, by simp [Node.rowIds]⟩)
  · rw [Node.property_group hc]
    rintro ⟨k', p'⟩ hm
    obtain ⟨left, c, right, inner, -, rfl, -⟩ := mem_ofEntries_entries.1 hm
    have hpath : c.IsPath n.name := (h.2 n hn).paths c (by simp [inner])
    refine ⟨c.id, Node.property_leaf hpath.leaf k', ?_⟩
    exact hids c.id (List.mem_flatMap.2 ⟨n, hn, by simp [Node.rowIds, inner]⟩)

theorem IsTree.linesOf_exportsSource {nodes : List Node} (h : IsTree nodes)
    (hids : ∀ id ∈ Node.ids nodes, IsSafeName id) :
    linesOf (exportsSource nodes) =
      ("module.exports = \x7b" :: (properties nodes).1.flatMap propertyLines ++ ["\x7d;"]).map
        String.toList := by
  have hplain := h.isPlain hids
  rw [exportsSource, linesOf_intercalate (by simp)]
  intro line hline
  rcases List.mem_append.1 hline with hline | hline
  · rcases List.mem_cons.1 hline with rfl | hline
    · decide
    · obtain ⟨e, he, hline⟩ := List.mem_flatMap.1 hline
      exact newline_notMem_propertyLines (hplain e he) line hline
  · obtain rfl := List.mem_singleton.1 hline
    decide

theorem IsTree.referredNames_eq {nodes : List Node} (h : IsTree nodes)
    (hids : ∀ id ∈ Node.ids nodes, IsSafeName id) :
    referredNames (exportsSource nodes) =
      (properties nodes).1.flatMap fun e => e.2.references := by
  have hplain := h.isPlain hids
  have hopen : (referredOn ∘ String.toList) "module.exports = \x7b" = none := by decide
  have hclose : (referredOn ∘ String.toList) "\x7d;" = none := by decide
  rw [referredNames, h.linesOf_exportsSource hids, List.filterMap_map, List.cons_append,
    List.filterMap_cons_none hopen, List.filterMap_append, List.filterMap_cons_none hclose,
    List.filterMap_nil, List.append_nil, List.filterMap_flatMap]
  exact List.flatMap_congr fun e he => filterMap_propertyLines (hplain e he)

end Text

section Bindings

variable {nodes : List Node}

theorem IsTree.hoistedNames_eq (h : IsTree nodes) (hids : ∀ id ∈ Node.ids nodes, IsSafeName id) :
    hoistedNames (hoistSource nodes) = bindings nodes := by
  have safe {id : String} (hid : id ∈ bindings nodes) := h.isSafeName_of_mem_bindings hids hid
  rw [hoistedNames, h.hoistSource_eq, filterMap_linesOf_statements rfl, List.filterMap_map]
  · conv_rhs => rw [← List.filterMap_some (l := bindings nodes)]
    exact List.filterMap_congr fun id hid => hoistedOn_declaration (safe hid).letters
  · intro s hs
    obtain ⟨id, hid, rfl⟩ := List.mem_map.1 hs
    have hline : '\n' ∉ id.toList := Identifier.notMem_of_letters (safe hid).letters (by decide)
    simp [hline]

theorem IsTree.isSafeName_of_mem_loads (h : IsTree nodes)
    (hids : ∀ id ∈ Node.ids nodes, IsSafeName id) {l : Load} (hl : l ∈ loads nodes) {id : String}
    (hid : l.binding = some id) : IsSafeName id :=
  h.isSafeName_of_mem_bindings hids (List.mem_filterMap.2 ⟨l, hl, hid⟩)

theorem Load.newline_notMem_text {l : Load} (h : ∀ id, l.binding = some id → IsSafeName id) :
    '\n' ∉ l.text.toList := by
  obtain ⟨binding, path⟩ := l
  have hpath := Text.newline_notMem_jsonQuoted path
  cases binding with
  | none => simp [Load.text, requireCall, hpath]
  | some id =>
    have hid : '\n' ∉ id.toList := Identifier.notMem_of_letters (h id rfl).letters (by decide)
    simp [Load.text, bindingStatement, requireCall, hpath, hid]

theorem IsTree.boundNames_eq (h : IsTree nodes) (hids : ∀ id ∈ Node.ids nodes, IsSafeName id) :
    boundNames (loadSource nodes) = bindings nodes := by
  have safe (l : Load) (hl : l ∈ loads nodes) (id : String) (hid : l.binding = some id) :=
    h.isSafeName_of_mem_loads hids hl hid
  rw [boundNames, h.loadSource_eq, filterMap_linesOf_statements rfl, List.filterMap_map, bindings]
  · exact List.filterMap_congr fun l hl => boundOn_load fun id hid => (safe l hl id hid).letters
  · intro s hs
    obtain ⟨l, hl, rfl⟩ := List.mem_map.1 hs
    exact l.newline_notMem_text (safe l hl)

end Bindings

section

variable {α σ : Type} [Document α] [Supply σ]

/-- The hoisted names are those that are bound to modules, each of them once. The exported object
refers to them only, and to each that is not shadowed. -/
theorem no_dangling_reference {raw : α} {supply supply' : σ} {nodes : List Node}
    (h : compile raw supply = (.ok nodes, supply')) (hnodup : (Node.ids nodes).Nodup)
    (hids : ∀ id ∈ Node.ids nodes, IsSafeName id) :
    hoistedNames (hoistSource nodes) = boundNames (loadSource nodes) ∧
      (hoistedNames (hoistSource nodes)).Nodup ∧
      (∀ id ∈ referredNames (exportsSource nodes), id ∈ hoistedNames (hoistSource nodes)) ∧
      ∀ id ∈ hoistedNames (hoistSource nodes),
        id ∉ referredNames (exportsSource nodes) ↔ Shadowed nodes id := by
  have tree : IsTree nodes := isTree_of_compile h
  have hrows : (nodes.flatMap Node.rowIds).Nodup := tree.ids_eq ▸ hnodup
  rw [tree.hoistedNames_eq hids, tree.boundNames_eq hids, tree.referredNames_eq hids]
  refine ⟨rfl, tree.bindings_sublist.nodup hnodup, ?_, ?_⟩
  · intro id hid
    obtain ⟨place, hplace, hlast⟩ := tree.mem_references.1 hid
    exact tree.mem_bindings.2 ⟨place, hplace, fun e he => (hlast e he).1⟩
  · intro id hid
    obtain ⟨place, hplace, hnamed⟩ := tree.mem_bindings.1 hid
    have names := hplace.publicName?_eq tree
    rw [tree.mem_references]
    constructor
    · intro hnot
      by_contra hclear
      refine hnot ⟨place, hplace, fun e he => ⟨hnamed e he, fun m hm hsame => hclear ?_⟩⟩
      rw [(names e he).1, (names e he).2 m hm] at hsame
      exact ⟨place, hplace, e, he, m, hm, hsame⟩
    · rintro ⟨place', hplace', e, he, m, hm, hsame⟩ ⟨place'', hplace'', hlast⟩
      obtain rfl := hplace.unique hrows hplace'
      obtain rfl := hplace.unique hrows hplace''
      rw [← (names e he).1, ← (names e he).2 m hm] at hsame
      exact (hlast e he).2 m hm hsame

end

/-- A package and a path that are shadowed. -/
theorem no_dangling_reference_shadowed :
    let _ : Depths := .ofCalls 900
    let raw := Value.arr
      [.obj [("name", .str "left"), ("alias", .str "x")],
        .obj [("name", .str "pad"), ("alias", .str "x"),
          ("exports", .arr [.obj [("name", .str "u"), ("alias", .str "k")],
            .obj [("name", .str "v"), ("alias", .str "k")], .obj [("name", .str "w")]])]]
    let tokens := ["firstfirst", "secondsecond", "thirdthird", "fourthfourth", "fifthfifth"]
    ∃ nodes supply', compile raw (Random.fresh, tokens) = (.ok nodes, supply') ∧
      (Node.ids nodes).Nodup ∧ (∀ id ∈ Node.ids nodes, IsSafeName id) ∧
      referredNames (exportsSource nodes) = ["fourthfourth"] ∧
      Shadowed nodes "firstfirst" ∧ Shadowed nodes "thirdthird" ∧
      ¬ Shadowed nodes "fourthfourth" := by
  intro _ raw tokens
  obtain ⟨nodes, supply', h⟩ : ∃ nodes supply',
    compile raw (Random.fresh, tokens) = (.ok nodes, supply') := ⟨_, _, rfl⟩
  have hids : Node.ids nodes = tokens := by cases h; rfl
  have hnodup : (Node.ids nodes).Nodup := by rw [hids]; decide
  have hsafe : ∀ id ∈ Node.ids nodes, IsSafeName id := by rw [hids]; decide
  have hreferred : referredNames (exportsSource nodes) = ["fourthfourth"] := by cases h; rfl
  have hhoisted : hoistedNames (hoistSource nodes) = ["firstfirst", "thirdthird", "fourthfourth"] := by
    cases h; rfl
  obtain ⟨-, -, -, hshadowed⟩ := no_dangling_reference h hnodup hsafe
  rw [hreferred, hhoisted] at hshadowed
  refine ⟨nodes, supply', h, hnodup, hsafe, hreferred, ?_, ?_, ?_⟩
  · exact (hshadowed "firstfirst" (by simp)).1 (by decide)
  · exact (hshadowed "thirdthird" (by simp)).1 (by decide)
  · intro hs
    exact (hshadowed "fourthfourth" (by simp)).2 hs (by simp)

end ExportBundle.Export
