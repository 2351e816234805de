import ExportBundle.Build.Run
import ExportBundle.Config.Basic
import ExportBundle.Identifier.Counter
import ExportBundle.Proofs.Build.Frame
import ExportBundle.Proofs.Export.Assembly
import ExportBundle.Proofs.Export.Concatenation
import ExportBundle.Proofs.Export.Construction

/-! Polyfills in a build. They are exports without public names ahead of all others, so each of them
becomes a package that is loaded and nothing more. Main statement: lists of exports compile in turn,
and with polyfills the stub begins with the statements that load them, while the rest of the tree is
what the exports make of the names that are left. -/

namespace ExportBundle.Export

open Identifier (Counter Supply)
open Json (Value)

variable {depths : Depths} {α σ : Type}

def bareExport (name : String) : Value := .obj [("name", .str name)]

theorem Mirrors.bare {name : String} {n : Node} (h : Mirrors (bareExport name) n) :
    n.name = name ∧ n.publicName? = none := by
  cases h with
  | leaf hraw hnamed _ _ =>
    cases hraw
    have hname : some name = some n.name := hnamed.name
    have halias : none = n.aliasName.map some := hnamed.aliasName
    refine ⟨(Option.some.inj hname).symm, ?_⟩
    rw [Node.publicName?, Option.map_eq_none_iff.1 halias.symm]
    rfl
  | group hraw _ hexports _ _ =>
    cases hraw
    cases hexports

theorem bare_of_mirrors {names : List String} {nodes : List Node}
    (h : List.Forall₂ Mirrors (names.map bareExport) nodes) :
    Node.packages nodes = names ∧ ∀ n ∈ nodes, n.publicName? = none := by
  rw [List.forall₂_map_left_iff] at h
  induction h with
  | nil => exact ⟨rfl, by simp⟩
  | cons hbare _ ih =>
    obtain ⟨rfl, hnone⟩ := hbare.bare
    refine ⟨?_, by simpa using ⟨hnone, ih.2⟩⟩
    rw [← ih.1]
    rfl

/-! Rows of packages without public names -/

theorem Node.IsPackage.children_eq_nil {n : Node} (h : n.IsPackage) (hn : n.publicName? = none) :
    n.children = [] := by
  by_contra hchildren
  exact h.named hchildren hn

section

variable {front : List Node} (hpackages : ∀ n ∈ front, n.IsPackage)
  (hunnamed : ∀ n ∈ front, n.publicName? = none)

include hpackages hunnamed

theorem loads_of_unnamed : loads front = (Node.packages front).map (⟨none, ·⟩) := by
  rw [loads, Node.packages, List.map_map, List.map_eq_flatMap]
  refine List.flatMap_congr fun n hn => ?_
  have hleaf := (hpackages n hn).children_eq_nil (hunnamed n hn)
  rw [Node.loads, if_pos hleaf, Node.packageLoad, Node.ownLoad, hunnamed n hn]
  rfl

theorem hoistSource_of_unnamed : hoistSource front = "" := by
  by_cases hne : front = []
  · rw [hne]
    rfl
  have htree : IsTree front := ⟨hne, hpackages⟩
  have hbindings : bindings front = [] := by
    rw [bindings, loads_of_unnamed hpackages hunnamed, List.filterMap_map,
      List.filterMap_eq_nil_iff]
    exact fun _ _ => rfl
  rw [htree.hoistSource_eq, hbindings]
  rfl

theorem length_ids_of_unnamed : (Node.ids front).length = front.length := by
  by_cases hne : front = []
  · rw [hne]
    rfl
  have htree : IsTree front := ⟨hne, hpackages⟩
  have hrows : Node.ids front = front.map Node.id := by
    rw [htree.ids_eq, List.map_eq_flatMap]
    refine List.flatMap_congr fun n hn => ?_
    rw [Node.rowIds, (hpackages n hn).children_eq_nil (hunnamed n hn)]
    rfl
  rw [hrows, List.length_map]

end

theorem collect_append_of_unnamed {front : List Node} (h : ∀ n ∈ front, n.publicName? = none)
    (level : Level) (before : OrderedMap String Property) (rest : List Node) :
    collect level before (front ++ rest) = collect level before rest := by
  induction front with
  | nil => rfl
  | cons n r ih =>
    rw [List.cons_append, collect, h n (by simp)]
    exact ih fun m hm => h m (List.mem_cons_of_mem n hm)

/-! The stub -/

def stubLines (fragments : List String) : String := String.join (fragments.map (· ++ ";\n"))

theorem stubLines_append (front back : List String) :
    stubLines (front ++ back) = stubLines front ++ stubLines back := by
  rw [stubLines, List.map_append, String.join_append]
  rfl

theorem statements_newline_eq {fragments : List String} (h : fragments ≠ []) :
    statements fragments ++ "\n" = stubLines fragments := by
  refine String.toList_inj.1 ?_
  rw [statements_append_newline h, stubLines, String.toList_join, List.flatMap_map]
  simp

theorem IsTree.stub_eq {nodes : List Node} (h : IsTree nodes) :
    loadSource nodes ++ "\n" = stubLines ((loads nodes).map Load.text) := by
  rw [h.loadSource_eq]
  exact statements_newline_eq (by simpa using h.loads_ne_nil)

theorem read_stub {τ : Type} {project directory stub : Path} {nodes : List Node}
    {w v : World τ σ}
    (h : (Build.scaffold project directory nodes).perform w = (.ok stub, v)) :
    v.disk.read v.here stub = .ok (Text.Utf8.encode (loadSource nodes ++ "\n").toList) := by
  obtain ⟨_, _, hwrite⟩ := Build.scaffold_writes h
  obtain ⟨e, hdisk, rfl⟩ := Act.writeBytes_eq_ok_iff.1 hwrite
  exact Disk.read_of_write hdisk

section

variable [Supply σ]

theorem compile_append {front back : List Value} (hfront : front ≠ []) (hback : back ≠ [])
    (s : σ) : compile (Value.arr (front ++ back)) s =
      inTurn (compile (Value.arr front) s) (compile (Value.arr back)) :=
  readExportsAt_append none 0 s hfront hback rfl rfl rfl

theorem compile_bare {names : List String} {nodes : List Node} {s t : σ}
    (h : compile (Value.arr (names.map bareExport)) s = (.ok nodes, t)) :
    Node.packages nodes = names ∧ (∀ n ∈ nodes, n.publicName? = none) ∧
      t = supplyAfter s names.length := by
  obtain ⟨hdrawn, items, hitems, hmirrors⟩ := compile_draws h
  cases hitems
  obtain ⟨hnames, hunnamed⟩ := bare_of_mirrors hmirrors
  have hlength : (Node.ids nodes).length = names.length := by
    rw [length_ids_of_unnamed (isTree_of_compile h).2 hunnamed, ← hnames, Node.packages,
      List.length_map]
  exact ⟨hnames, hunnamed, by rw [← hlength, hdrawn.supplyAfter_eq]⟩

/-- The nodes are those that the exports make alone, with the names that the polyfills left. -/
structure Remains [Depths] (config : Config) (s t : σ) (rest : List Node) : Prop where
  exported : config.exports ≠ [] →
    compile (Value.arr config.exports) (supplyAfter s config.polyfills.length) = (.ok rest, t)
  unexported : config.exports = [] → rest = [] ∧ t = supplyAfter s config.polyfills.length

/-- The polyfills are loaded ahead of the nodes that remain, and nothing but loads is added. -/
structure LoadsFirst [Depths] (config : Config) (s t : σ) (nodes rest : List Node) : Prop extends
    Remains config s t rest where
  packages : Node.packages nodes = config.polyfills ++ Node.packages rest
  loads : loads nodes = config.polyfills.map (⟨none, ·⟩) ++ loads rest
  hoisted : hoistSource nodes = hoistSource rest
  properties : (properties nodes).1 = (properties rest).1
  duplicates : duplicates nodes = duplicates rest

theorem exists_front {config : Config} {s t : σ} {nodes : List Node}
    (h : compile (Value.arr config.entries) s = (.ok nodes, t)) :
    ∃ front rest, nodes = front ++ rest ∧ Node.packages front = config.polyfills ∧
      (∀ n ∈ front, n.publicName? = none) ∧ Remains config s t rest := by
  have hentries : config.entries = config.polyfills.map bareExport ++ config.exports := rfl
  rw [hentries] at h
  by_cases hexports : config.exports = []
  · rw [hexports, List.append_nil] at h
    obtain ⟨hnames, hunnamed, ht⟩ := compile_bare h
    exact ⟨nodes, [], (List.append_nil nodes).symm, hnames, hunnamed,
      fun hne => absurd hexports hne, fun _ => ⟨rfl, ht⟩⟩
  by_cases hpolyfills : config.polyfills = []
  · rw [hpolyfills, List.map_nil, List.nil_append] at h
    refine ⟨[], nodes, rfl, hpolyfills.symm, by simp, fun _ => ?_,
      fun hempty => absurd hempty hexports⟩
    rw [hpolyfills]
    exact h
  rw [compile_append (by simpa using hpolyfills) hexports] at h
  obtain ⟨front, u, rest, hfront, hrest, rfl⟩ := inTurn_eq_ok h
  obtain ⟨hnames, hunnamed, rfl⟩ := compile_bare hfront
  exact ⟨front, rest, rfl, hnames, hunnamed, fun _ => hrest,
    fun hempty => absurd hempty hexports⟩

theorem exists_loadsFirst {config : Config} {s t : σ} {nodes : List Node}
    (h : compile (Value.arr config.entries) s = (.ok nodes, t)) :
    ∃ rest, LoadsFirst config s t nodes rest := by
  obtain ⟨front, rest, rfl, hnames, hunnamed, hrest⟩ := exists_front h
  have hpackages : ∀ n ∈ front, n.IsPackage := fun n hn =>
    (isTree_of_compile h).2 n (List.mem_append_left rest hn)
  have hproperties : properties (front ++ rest) = properties rest :=
    collect_append_of_unnamed hunnamed .top [] rest
  refine ⟨rest, hrest, ?_, ?_, ?_, congrArg Prod.fst hproperties, congrArg Prod.snd hproperties⟩
  · rw [← hnames, Node.packages, List.map_append]
    rfl
  · rw [← hnames, ← loads_of_unnamed hpackages hunnamed, loads, List.flatMap_append]
    rfl
  · rw [hoistSource_append, hoistSource_of_unnamed hpackages hunnamed,
      joined_pair_of_empty (.inl rfl), String.empty_append]

/-- Exports compile in turn. A list with another behind it is read like the one and then the other
with the names that are left, up to the first error, and the sources and the packages of two rows of
nodes stand one behind the other. So the stub of a configuration begins with the statements that
load its polyfills in their order, and they add neither a binding nor a property nor a warning. -/
theorem exports_compile_in_turn [Document α] :
    (∀ (parent : Option Node) (depth : Int) (a b c : α) (front back : List α) (s : σ),
      front ≠ [] → back ≠ [] → Document.items? a = some front → Document.items? b = some back →
      Document.items? c = some (front ++ back) →
      (readExportsAt parent depth c).run.run s =
        inTurn ((readExportsAt parent depth a).run.run s) (readExportsAt parent depth b).run.run) ∧
    (∀ front back : List Node,
      loadSource (front ++ back) = joined [loadSource front, loadSource back] ∧
      hoistSource (front ++ back) = joined [hoistSource front, hoistSource back] ∧
      Node.packages (front ++ back) = Node.packages front ++ Node.packages back) ∧
    ∀ (config : Config) (s t : σ) (nodes : List Node),
      compile (Value.arr config.entries) s = (.ok nodes, t) →
      ∃ rest, LoadsFirst config s t nodes rest ∧
        ∀ (τ : Type) (project directory stub : Path) (w v : World τ σ),
          (Build.scaffold project directory nodes).perform w = (.ok stub, v) →
          v.disk.read v.here stub = .ok (Text.Utf8.encode
            (stubLines (config.polyfills.map requireCall) ++
              stubLines ((loads rest).map Load.text)).toList) := by
  refine ⟨fun parent depth a b c front back s hfront hback ha hb hc =>
    readExportsAt_append parent depth s hfront hback ha hb hc,
    fun front back => ⟨loadSource_append front back, hoistSource_append front back,
      List.map_append⟩, ?_⟩
  intro config s t nodes h
  obtain ⟨rest, hrest⟩ := exists_loadsFirst h
  refine ⟨rest, hrest, fun τ project directory stub w v hscaffold => ?_⟩
  have hpolyfills : (config.polyfills.map (⟨none, ·⟩)).map Load.text =
      config.polyfills.map requireCall := by
    rw [List.map_map]
    rfl
  rw [read_stub hscaffold, (isTree_of_compile h).stub_eq, hrest.loads, List.map_append,
    stubLines_append, hpolyfills]

end

def polyfilled : Config where
  exports := [.obj [("name", .str "left-pad"), ("alias", .str "pad")]]
  out := ⟨0, ["dist"]⟩
  polyfills := ["shim"]
  minify := false
  host := none
  keepTemp := false
  root := ⟨0, []⟩

def manifestOnly : World Unit Counter where
  disk := Disk.empty.plant ["work", "package.json"] (.file [])
  here := ["work"]
  tools := ()
  names := .fresh
  temporaries := 0
  time := "now"
  commands := []
  warnings := []
  steps := []

theorem exports_compile_in_turn_polyfilled :
    let _ : Depths := .ofCalls 900
    ∃ nodes rest t stub v,
      compile (Value.arr polyfilled.entries) Counter.fresh = (.ok nodes, t) ∧
      compile (Value.arr polyfilled.entries) Counter.fresh =
        inTurn (compile (Value.arr [bareExport "shim"]) Counter.fresh)
          (compile (Value.arr polyfilled.exports)) ∧
      LoadsFirst polyfilled Counter.fresh t nodes rest ∧
      (Build.scaffold ⟨0, []⟩ ⟨0, ["temporary"]⟩ nodes).perform manifestOnly = (.ok stub, v) ∧
      v.disk.read v.here stub = .ok (Text.Utf8.encode
        "require(\"shim\");\nvar anywhereB = require(\"left-pad\");\n".toList) := by
  intro _
  obtain ⟨hturn, -, hconfig⟩ := exports_compile_in_turn (α := Value) (σ := Counter)
  obtain ⟨nodes, t, hnodes⟩ : ∃ nodes t,
      compile (Value.arr polyfilled.entries) Counter.fresh = (.ok nodes, t) := ⟨_, _, rfl⟩
  obtain ⟨rest, hrest, hstub⟩ := hconfig polyfilled Counter.fresh t nodes hnodes
  obtain ⟨stub, v, hscaffold⟩ : ∃ stub v,
      (Build.scaffold ⟨0, []⟩ ⟨0, ["temporary"]⟩ nodes).perform manifestOnly = (.ok stub, v) :=
    ⟨_, _, rfl⟩
  refine ⟨nodes, rest, t, stub, v, hnodes, ?_, hrest, hscaffold, ?_⟩
  · exact hturn none 0 _ _ _ [bareExport "shim"] polyfilled.exports _ (by simp)
      (by simp [polyfilled]) rfl rfl rfl
  · have hloads : ((compile (Value.arr polyfilled.exports)
        (supplyAfter Counter.fresh polyfilled.polyfills.length)).1.map loads).toOption =
          some [⟨some "anywhereB", "left-pad"⟩] := by decide +kernel
    rw [hrest.exported (by simp [polyfilled])] at hloads
    rw [hstub Unit _ _ _ _ _ hscaffold, show loads rest = _ from Option.some.inj hloads]
    rfl

end ExportBundle.Export
