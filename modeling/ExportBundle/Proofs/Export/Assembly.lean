import ExportBundle.Export.Assembly
import ExportBundle.Identifier.Random
import ExportBundle.Proofs.Export.ModulePath
import ExportBundle.Proofs.Export.Reading
import ExportBundle.Proofs.Export.Scope
import ExportBundle.Proofs.Export.Statements

/-! The finished module around the statements of a tree. Main statement: freeing the bindings turns
each of the statements into an assignment and changes nothing else, as long as the text around them
does not declare the names itself. -/

namespace ExportBundle.Export

open Identifier (IsSafeName Supply Random isLetter)
open Scope (Begins Declaration Declares IsLetterName Quiet hidesKeyword keywords pass quiet_append
  quiet_marks quiet_forward quiet_visible quiet_word)
open Text (isBlank)
open Json (Value)

def assignment (fragment : String) : String :=
  if "var ".toList.isPrefixOf fragment.toList then String.ofList (fragment.toList.drop 4)
  else fragment

/-- The statements of a tree as assignments to bindings that are declared elsewhere. -/
def assignmentSource (nodes : List Node) : String :=
  statements ((Node.forest nodes).filterMap fun e => (nonEmpty? e.1.load).map assignment)

/-- The hoisted declarations with the line break behind them, if there are any. -/
def hoistHead (nodes : List Node) : String :=
  if (hoistSource nodes).isEmpty then "" else hoistSource nodes ++ "\n"

section Fragments

theorem requireCall_toList (path : String) : (requireCall path).toList =
    "require(".toList ++ (Text.jsonQuoted path).toList ++ [')'] := by
  simp [requireCall]

theorem isBlank_of_mem_requireCall {path : String} (hpath : ' ' ∉ path.toList) :
    ∀ c ∈ (requireCall path).toList, isBlank c = false := by
  intro c hc
  rw [requireCall_toList, List.mem_append, List.mem_append] at hc
  rcases hc with (hc | hc) | hc
  · revert c
    decide
  · exact Text.isBlank_eq_false_of_mem_jsonQuoted hpath hc
  · obtain rfl := List.mem_singleton.1 hc
    rfl

theorem assignment_bare (path : String) : assignment (Load.text ⟨none, path⟩) = requireCall path := by
  have hlist : (Load.text ⟨none, path⟩).toList =
      "require(".toList ++ ((Text.jsonQuoted path).toList ++ [')']) := by
    simp [Load.text, requireCall]
  rw [assignment, hlist, if_neg]
  · rfl
  · exact Bool.false_ne_true

theorem assignment_binding (id path : String) :
    assignment (Load.text ⟨some id, path⟩) = id ++ " = " ++ requireCall path := by
  have hlist : (Load.text ⟨some id, path⟩).toList =
      "var ".toList ++ (id ++ " = " ++ requireCall path).toList := by
    simp [Load.text, bindingStatement]
  rw [assignment, hlist, if_pos]
  · exact String.ofList_toList
  · simp

variable {names freed : List (List Char)} {left : Option Char} {rest : List Char}

theorem isLetterName_toList {id : String} (h : IsSafeName id) : IsLetterName id.toList :=
  ⟨by simpa using h.ne, h.letters⟩

theorem toList_notMem_keywords {id : String} (h : IsSafeName id) : id.toList ∉ keywords := by
  intro hmem
  have hword : id ∈ ["var", "let", "const"] := by
    simpa [keywords, ← String.toList_inj] using hmem
  have hreserved : ∀ word ∈ ["var", "let", "const"], word ∈ Identifier.reserved := by decide
  exact h.free (hreserved id hword)

theorem pass_load (hnames : ∀ name ∈ names, IsLetterName name) (rest : List Char) {l : Load}
    (hleft : left.any hidesKeyword = false) (hpath : ' ' ∉ l.path.toList)
    (hbinding : ∀ id, l.binding = some id → id.toList ∈ names ∧ id.toList ∉ freed) :
    pass names freed left (l.text.toList ++ ';' :: rest) = (assignment l.text).toList ++
      ';' :: pass names (l.binding.toList.map String.toList ++ freed) (some ';') rest := by
  obtain ⟨binding, path⟩ := l
  have hquiet {left : Option Char} : Quiet names rest left ((requireCall path).toList ++ [';']) :=
    quiet_visible (isBlank_of_mem_requireCall hpath) rfl rfl
  cases binding with
  | none =>
    have hsplit : (Load.text ⟨none, path⟩).toList ++ ';' :: rest =
        ((requireCall path).toList ++ [';']) ++ rest := by simp [Load.text]
    rw [hsplit, hquiet.pass_eq, assignment_bare]
    simp
  | some id =>
    obtain ⟨hmem, hnew⟩ := hbinding id rfl
    let d : Declaration := ⟨"var ".toList, id.toList⟩
    have hsplit : (Load.text ⟨some id, path⟩).toList ++ ';' :: rest =
        d.text ++ (" = ".toList ++ (((requireCall path).toList ++ [';']) ++ rest)) := by
      simp [Load.text, bindingStatement, d, Declaration.text]
    have hbegins : Begins d left
        (d.text ++ (" = ".toList ++ (((requireCall path).toList ++ [';']) ++ rest))) :=
      ⟨hleft, "var".toList, [' '], _, by decide, by simp, by decide, rfl, rfl, rfl⟩
    have hequals {left : Option Char} :
        Quiet names (((requireCall path).toList ++ [';']) ++ rest) left " = ".toList :=
      quiet_marks (by decide)
    rw [hsplit, hbegins.pass_eq hnames hmem hnew, hequals.pass_eq, hquiet.pass_eq,
      assignment_binding]
    simp [d]

def boundTo (ls : List Load) : List (List Char) := (ls.filterMap Load.binding).map String.toList

theorem boundTo_cons (l : Load) (ls : List Load) :
    boundTo (l :: ls) = l.binding.toList.map String.toList ++ boundTo ls := by
  obtain ⟨binding, path⟩ := l
  cases binding <;> rfl

theorem mem_boundTo {l : Load} {ls : List Load} {id : String} (h : l.binding = some id) :
    id.toList ∈ boundTo (l :: ls) := by
  rw [boundTo_cons, h]
  exact List.mem_append_left _ (List.mem_singleton_self _)

theorem pass_statements (hnames : ∀ name ∈ names, IsLetterName name) (rest : List Char) (l : Load)
    (ls : List Load) (freed : List (List Char)) (left : Option Char)
    (hleft : left.any hidesKeyword = false)
    (hpaths : ∀ x ∈ l :: ls, ' ' ∉ x.path.toList)
    (hmem : ∀ name ∈ boundTo (l :: ls), name ∈ names) (hnodup : (boundTo (l :: ls)).Nodup)
    (hnew : ∀ name ∈ boundTo (l :: ls), name ∉ freed) :
    ∃ freed', (∀ name ∈ boundTo (l :: ls) ++ freed, name ∈ freed') ∧
      pass names freed left ((statements ((l :: ls).map Load.text)).toList ++ rest) =
        (statements ((l :: ls).map fun x => assignment x.text)).toList ++
          pass names freed' (some ';') rest := by
  induction ls generalizing l left freed with
  | nil =>
    have hone : boundTo [l] = l.binding.toList.map String.toList := by
      rw [boundTo_cons]
      exact List.append_nil _
    have hload := pass_load hnames rest hleft (hpaths l (by simp))
      fun id hid => ⟨hmem _ (mem_boundTo hid), hnew _ (mem_boundTo hid)⟩
    refine ⟨boundTo [l] ++ freed, fun name hname => hname, ?_⟩
    rw [← hone] at hload
    simpa [statements_singleton] using hload
  | cons m ls ih =>
    have hload := pass_load hnames ('\n' :: ((statements ((m :: ls).map Load.text)).toList ++ rest))
      hleft (hpaths l (by simp))
      fun id hid => ⟨hmem _ (mem_boundTo hid), hnew _ (mem_boundTo hid)⟩
    have hbreak (freed : List (List Char)) (text : List Char) :
        pass names freed (some ';') ('\n' :: text) = '\n' :: pass names freed (some '\n') text :=
      (quiet_marks (a := ['\n']) (by decide)).pass_eq
    rw [boundTo_cons] at hmem hnodup hnew ⊢
    obtain ⟨-, hnodup', hdisjoint⟩ := List.nodup_append.1 hnodup
    -- No later load binds what this one has freed, so the rest still frees its own bindings.
    obtain ⟨freed', hfreed, hpass⟩ := ih m (l.binding.toList.map String.toList ++ freed)
      (some '\n') rfl (fun x hx => hpaths x (List.mem_cons_of_mem l hx))
      (fun name hname => hmem name (List.mem_append_right _ hname)) hnodup' (by
        intro name hname hin
        rcases List.mem_append.1 hin with hin | hin
        · exact hdisjoint name hin name hname rfl
        · exact hnew name (List.mem_append_right _ hname) hin)
    refine ⟨freed', fun name hname => hfreed name ?_, ?_⟩
    · simp only [List.mem_append] at hname ⊢
      tauto
    · have hsplit : (statements ((l :: m :: ls).map Load.text)).toList ++ rest =
          l.text.toList ++ ';' :: '\n' :: ((statements ((m :: ls).map Load.text)).toList ++ rest) := by
        simp [statements_cons_cons]
      rw [hsplit, hload, hbreak, hpass]
      simp [statements_cons_cons]

theorem quiet_assignment {l : Load} (hpath : ' ' ∉ l.path.toList)
    (hbinding : ∀ id, l.binding = some id → IsSafeName id) :
    Quiet names rest left ((assignment l.text).toList ++ [';']) := by
  obtain ⟨binding, path⟩ := l
  have hcall {left : Option Char} : Quiet names rest left ((requireCall path).toList ++ [';']) :=
    quiet_visible (isBlank_of_mem_requireCall hpath) rfl rfl
  cases binding with
  | none =>
    rw [assignment_bare]
    exact hcall
  | some id =>
    have hid := hbinding id rfl
    have hsplit : (assignment (Load.text ⟨some id, path⟩)).toList ++ [';'] =
        id.toList ++ (" = ".toList ++ ((requireCall path).toList ++ [';'])) := by
      simp [assignment_binding]
    rw [hsplit, quiet_append, quiet_append]
    exact ⟨quiet_word hid.letters (toList_notMem_keywords hid) rfl, quiet_marks (by decide), hcall⟩

theorem quiet_assignments (l : Load) (ls : List Load) (left : Option Char)
    (hpaths : ∀ x ∈ l :: ls, ' ' ∉ x.path.toList)
    (hsafe : ∀ x ∈ l :: ls, ∀ id, x.binding = some id → IsSafeName id) :
    Quiet names rest left (statements ((l :: ls).map fun x => assignment x.text)).toList := by
  induction ls generalizing l left with
  | nil =>
    rw [List.map_singleton, statements_singleton, String.toList_append]
    exact quiet_assignment (hpaths l (by simp)) (hsafe l (by simp))
  | cons m ls ih =>
    have hsplit : (statements ((l :: m :: ls).map fun x => assignment x.text)).toList =
        ((assignment l.text).toList ++ [';']) ++
          (['\n'] ++ (statements ((m :: ls).map fun x => assignment x.text)).toList) := by
      simp [statements_cons_cons]
    have htail := fun left => ih m left (fun x hx => hpaths x (List.mem_cons_of_mem l hx))
      (fun x hx => hsafe x (List.mem_cons_of_mem l hx))
    rw [hsplit]
    refine quiet_append.2 ⟨?_, quiet_append.2 ⟨quiet_marks (by decide), htail _⟩⟩
    exact quiet_assignment (hpaths l (by simp)) (hsafe l (by simp))

theorem quiet_hoist (hnames : ∀ name ∈ names, IsLetterName name) (ids : List String)
    (hids : ∀ id ∈ ids, IsSafeName id) : Quiet names rest left
      (ids.flatMap fun id => "var ".toList ++ id.toList ++ [';', '\n']) := by
  induction ids generalizing left with
  | nil => exact .nil
  | cons id ids ih =>
    have hid := hids id (by simp)
    have hsplit : "var ".toList ++ id.toList ++ [';', '\n'] =
        ("var ".toList ++ id.toList ++ [';']) ++ ['\n'] := by simp
    rw [List.flatMap_cons, hsplit, quiet_append, quiet_append]
    refine ⟨⟨?_, quiet_marks (by decide)⟩, ih fun x hx => hids x (List.mem_cons_of_mem id hx)⟩
    exact quiet_forward hnames (isLetterName_toList hid) (toList_notMem_keywords hid)

end Fragments

section Trees

variable {nodes : List Node}

theorem statements_append_newline {fragments : List String} (h : fragments ≠ []) :
    (statements fragments ++ "\n").toList = fragments.flatMap fun s => s.toList ++ [';', '\n'] := by
  induction fragments with
  | nil => exact absurd rfl h
  | cons a r ih =>
    cases r with
    | nil => simp [statements_singleton]
    | cons b r =>
      rw [statements_cons_cons, String.append_assoc, String.toList_append, ih (by simp)]
      simp

theorem IsTree.hoistHead_toList (h : IsTree nodes) : (hoistHead nodes).toList =
    (bindings nodes).flatMap fun id => "var ".toList ++ id.toList ++ [';', '\n'] := by
  rw [hoistHead, h.hoistSource_eq]
  by_cases hb : bindings nodes = []
  · rw [hb]
    rfl
  · have hne : ((bindings nodes).map ("var " ++ ·)) ≠ [] := by simpa using hb
    have hfull : (statements ((bindings nodes).map ("var " ++ ·))).isEmpty = false := by
      rw [Bool.eq_false_iff, ne_eq, String.isEmpty_iff]
      exact statements_ne_empty hne
    rw [hfull, if_neg Bool.false_ne_true, statements_append_newline hne, List.flatMap_map]
    simp

theorem IsTree.assignmentSource_eq (h : IsTree nodes) : assignmentSource nodes =
    statements ((loads nodes).map fun l => assignment l.text) := by
  have hmap : (Node.forest nodes).filterMap (fun e => (nonEmpty? e.1.load).map assignment) =
      ((Node.forest nodes).filterMap fun e => nonEmpty? e.1.load).map assignment := by
    rw [List.map_filterMap]
  rw [assignmentSource, hmap, h.loadFragments_eq, List.map_map]
  rfl

theorem mem_join {package offset : String} {c : Char}
    (h : c ∈ (ModulePath.join package offset).toList) :
    c ∈ package.toList ∨ c = '/' ∨ c ∈ offset.toList := by
  rw [ModulePath.toList_join, ModulePath.mem_collapse] at h
  simpa using h

theorem IsTree.space_notMem_path (h : IsTree nodes)
    (hspace : ∀ e ∈ Node.forest nodes, ' ' ∉ e.1.name.toList) :
    ∀ l ∈ loads nodes, ' ' ∉ l.path.toList := by
  rw [h.forest_eq] at hspace
  have own {n : Node} {path : String} (hname : ' ' ∉ n.name.toList) (hpath : ' ' ∉ path.toList) :
      ' ' ∉ (n.ownLoad path).path.toList := by
    unfold Node.ownLoad
    cases n.publicName? with
    | none => exact hname
    | some aliasName => exact hpath
  intro l hl
  obtain ⟨n, hn, hl⟩ := List.mem_flatMap.1 hl
  have hpackage : ' ' ∉ n.name.toList :=
    hspace (n, 0) (List.mem_flatMap.2 ⟨n, hn, by simp⟩)
  rw [Node.loads] at hl
  split at hl
  · obtain rfl := List.mem_singleton.1 hl
    exact own hpackage hpackage
  · obtain ⟨c, hc, rfl⟩ := List.mem_map.1 hl
    have hpath : ' ' ∉ c.name.toList :=
      hspace (c, 1) (List.mem_flatMap.2 ⟨n, hn, by simp [hc]⟩)
    refine own hpath fun hjoin => ?_
    rcases mem_join hjoin with hin | hin | hin
    · exact hpackage hin
    · exact absurd hin (by decide)
    · exact hpath hin

theorem IsTree.mem_bindings_of_bindsAt (h : IsTree nodes) {e : Node × Nat}
    (he : e ∈ Node.forest nodes) (hbinds : e.1.bindsAt e.2 = true) : e.1.id ∈ bindings nodes := by
  rw [h.forest_eq] at he
  obtain ⟨n, hn, he⟩ := List.mem_flatMap.1 he
  rw [bindings, List.mem_filterMap]
  rcases List.mem_cons.1 he with rfl | he
  · obtain ⟨hname, hleaf⟩ : n.publicName?.isSome = true ∧ n.children = [] := by
      simpa [Node.bindsAt] using hbinds
    refine ⟨n.packageLoad, List.mem_flatMap.2 ⟨n, hn, ?_⟩, ?_⟩
    · simp [Node.loads, hleaf]
    · exact Node.binding_ownLoad.2 ⟨Option.isSome_iff_ne_none.1 hname, rfl⟩
  · obtain ⟨c, hc, rfl⟩ := List.mem_map.1 he
    have hname : c.publicName?.isSome = true := by
      simpa [Node.bindsAt] using hbinds
    refine ⟨c.pathLoad n.name, List.mem_flatMap.2 ⟨n, hn, ?_⟩, ?_⟩
    · rw [Node.loads, if_neg (List.ne_nil_of_mem hc)]
      exact List.mem_map_of_mem hc
    · exact Node.binding_ownLoad.2 ⟨Option.isSome_iff_ne_none.1 hname, rfl⟩

end Trees

def treeNames (nodes : List Node) : List (List Char) :=
  Scope.longestFirst ((Node.ids nodes).map String.toList)

section Source

variable {nodes : List Node} {rest : List Char}

theorem mem_treeNames {name : List Char} :
    name ∈ treeNames nodes ↔ ∃ id ∈ Node.ids nodes, id.toList = name := by
  simp [treeNames, Scope.longestFirst]

theorem isLetterName_of_mem_treeNames (hids : ∀ id ∈ Node.ids nodes, IsSafeName id) :
    ∀ name ∈ treeNames nodes, IsLetterName name := by
  intro name hname
  obtain ⟨id, hid, rfl⟩ := mem_treeNames.1 hname
  exact isLetterName_toList (hids id hid)

theorem IsTree.loads_ne_nil (h : IsTree nodes) : loads nodes ≠ [] := by
  obtain ⟨n, hn⟩ := List.exists_mem_of_ne_nil nodes h.1
  have hloads : n.loads ≠ [] := by
    unfold Node.loads
    split <;> simp_all
  obtain ⟨l, hl⟩ := List.exists_mem_of_ne_nil _ hloads
  exact List.ne_nil_of_mem (List.mem_flatMap.2 ⟨n, hn, hl⟩)

theorem IsTree.toList_free (h : IsTree nodes) (source : String) :
    (Scope.free (Node.ids nodes) source).toList = pass (treeNames nodes) [] none source.toList := by
  obtain ⟨n, hn⟩ := List.exists_mem_of_ne_nil nodes h.1
  have hid : n.id ∈ Node.ids nodes := by
    rw [h.ids_eq]
    exact List.mem_flatMap.2 ⟨n, hn, List.mem_cons_self⟩
  unfold treeNames
  cases hids : Node.ids nodes with
  | nil => simp [hids] at hid
  | cons id ids => exact String.toList_ofList

theorem hoisted_eq (bundle : String) (nodes : List Node) :
    hoisted bundle nodes = hoistHead nodes ++ bundle := by
  cases he : (hoistSource nodes).isEmpty with
  | true =>
    simp only [hoisted, hoistHead, he, if_pos]
    exact String.empty_append.symm
  | false =>
    simp only [hoisted, hoistHead, he, Bool.false_eq_true, if_false]

theorem hoistHead_getLast? (nodes : List Node) :
    (hoistHead nodes).toList.getLast?.any hidesKeyword = false := by
  unfold hoistHead
  split
  · rfl
  · rw [String.toList_append, List.getLast?_append]
    rfl

theorem IsTree.quiet_hoistHead (h : IsTree nodes) (hids : ∀ id ∈ Node.ids nodes, IsSafeName id) :
    Quiet (treeNames nodes) rest none (hoistHead nodes).toList := by
  rw [h.hoistHead_toList]
  exact quiet_hoist (isLetterName_of_mem_treeNames hids) _ fun id hid =>
    h.isSafeName_of_mem_bindings hids hid

theorem statements_word (l : Load) (ls : List Load) :
    ∃ word ∈ ["var", "require"], ∃ c after, isLetter c = false ∧
      (statements ((l :: ls).map Load.text)).toList = word.toList ++ c :: after := by
  obtain ⟨more, hmore⟩ : ∃ more, statements ((l :: ls).map Load.text) = l.text ++ more := by
    cases ls with
    | nil => exact ⟨_, statements_singleton _⟩
    | cons m ls =>
      refine ⟨";" ++ ("\n" ++ statements ((m :: ls).map Load.text)), ?_⟩
      rw [List.map_cons, List.map_cons, statements_cons_cons, String.append_assoc,
        String.append_assoc]
  obtain ⟨binding, path⟩ := l
  rw [hmore]
  cases binding with
  | none =>
    refine ⟨"require", by simp, '(', (Text.jsonQuoted path).toList ++ ')' :: more.toList, rfl, ?_⟩
    simp [Load.text, requireCall]
  | some id =>
    refine ⟨"var", by simp, ' ', (id ++ " = " ++ requireCall path).toList ++ more.toList, rfl, ?_⟩
    simp [Load.text, bindingStatement]

theorem IsTree.quiet_before (h : IsTree nodes) (hids : ∀ id ∈ Node.ids nodes, IsSafeName id)
    {before : List Char} {left : Option Char} (hend : before.getLast?.any hidesKeyword = false)
    (hbefore : ∀ id ∈ Node.ids nodes, ¬ Declares id.toList before) :
    Quiet (treeNames nodes) ((loadSource nodes).toList ++ rest) left before := by
  obtain ⟨l, ls, hloads⟩ := List.exists_cons_of_ne_nil h.loads_ne_nil
  obtain ⟨word, hword, c, more, hc, hstub⟩ := statements_word l ls
  have hwords : ∀ word ∈ ["var", "require"], word ∈ Identifier.reserved ∧
    word.toList.head?.any isLetter = true ∧ ∀ c ∈ word.toList, isLetter c = true := by decide
  obtain ⟨hreserved, hhead, hletters⟩ := hwords word hword
  have htake : ((loadSource nodes).toList ++ rest).takeWhile isLetter = word.toList := by
    rw [h.loadSource_eq, hloads, hstub, List.append_assoc]
    exact Scope.takeWhile_span hletters (by simpa using hc)
  refine Scope.quiet_of_not_declares (isLetterName_of_mem_treeNames hids) hend ?_ ?_ ?_
  · intro name hname
    obtain ⟨id, hid, rfl⟩ := mem_treeNames.1 hname
    exact hbefore id hid
  · rw [h.loadSource_eq, hloads, hstub, List.append_assoc, List.head?_append]
    cases hw : word.toList.head? with
    | none => simp [hw] at hhead
    | some x =>
      rw [hw] at hhead
      exact hhead
  · rw [htake, mem_treeNames]
    rintro ⟨id, hid, he⟩
    exact (hids id hid).free (String.toList_inj.1 he ▸ hreserved)

theorem IsTree.pass_loadSource (h : IsTree nodes) (hnodup : (Node.ids nodes).Nodup)
    (hids : ∀ id ∈ Node.ids nodes, IsSafeName id)
    (hspace : ∀ e ∈ Node.forest nodes, ' ' ∉ e.1.name.toList) (rest : List Char)
    {left : Option Char} (hleft : left.any hidesKeyword = false) :
    ∃ freed, (∀ id ∈ bindings nodes, id.toList ∈ freed) ∧
      pass (treeNames nodes) [] left ((loadSource nodes).toList ++ rest) =
        (assignmentSource nodes).toList ++ pass (treeNames nodes) freed (some ';') rest := by
  have hbound : boundTo (loads nodes) = (bindings nodes).map String.toList := rfl
  have hdistinct : (boundTo (loads nodes)).Nodup :=
    List.Pairwise.map String.toList (fun a b hne he => hne (String.toList_inj.1 he))
      (h.bindings_sublist.nodup hnodup)
  have hmem : ∀ name ∈ boundTo (loads nodes), name ∈ treeNames nodes := by
    intro name hname
    obtain ⟨id, hid, rfl⟩ := List.mem_map.1 hname
    exact mem_treeNames.2 ⟨id, h.bindings_sublist.subset hid, rfl⟩
  have hpaths := h.space_notMem_path hspace
  rw [h.loadSource_eq, h.assignmentSource_eq]
  obtain ⟨l, ls, hloads⟩ := List.exists_cons_of_ne_nil h.loads_ne_nil
  rw [hloads] at hbound hdistinct hmem hpaths ⊢
  obtain ⟨freed, hfreed, hpass⟩ := pass_statements
    (isLetterName_of_mem_treeNames hids) rest l ls [] left hleft hpaths hmem hdistinct (by simp)
  refine ⟨freed, fun id hid => hfreed _ ?_, hpass⟩
  rw [hbound, List.append_nil]
  exact List.mem_map_of_mem hid

theorem IsTree.not_declares_assignmentSource (h : IsTree nodes)
    (hids : ∀ id ∈ Node.ids nodes, IsSafeName id)
    (hspace : ∀ e ∈ Node.forest nodes, ' ' ∉ e.1.name.toList) :
    ∀ id ∈ Node.ids nodes, ¬ Declares id.toList (assignmentSource nodes).toList := by
  intro id hid
  have hpaths := h.space_notMem_path hspace
  have hsafe : ∀ l ∈ loads nodes, ∀ id, l.binding = some id → IsSafeName id := fun l hl id hbind =>
    h.isSafeName_of_mem_bindings hids (List.mem_filterMap.2 ⟨l, hl, hbind⟩)
  obtain ⟨l, ls, hloads⟩ := List.exists_cons_of_ne_nil h.loads_ne_nil
  rw [hloads] at hpaths hsafe
  have hquiet : Quiet [id.toList] [] none (assignmentSource nodes).toList := by
    rw [h.assignmentSource_eq, hloads]
    exact quiet_assignments l ls none hpaths hsafe
  exact hquiet.not_declares (List.mem_singleton_self _)

end Source

section

variable {α σ : Type} [Document α] [Supply σ]

/-- The module around the statements of a tree. -/
theorem assemble_eq {raw : α} {supply supply' : σ} {nodes : List Node}
    (h : compile raw supply = (.ok nodes, supply')) (hnodup : (Node.ids nodes).Nodup)
    (hids : ∀ id ∈ Node.ids nodes, IsSafeName id)
    (hspace : ∀ e ∈ Node.forest nodes, ' ' ∉ e.1.name.toList) {before after : String}
    (hend : before.toList.getLast?.any hidesKeyword = false)
    (hbefore : ∀ id ∈ Node.ids nodes, ¬ Declares id.toList before.toList)
    (hafter : ∀ e ∈ Node.forest nodes, e.1.bindsAt e.2 = false →
      ¬ Declares e.1.id.toList after.toList) :
    assemble (before ++ loadSource nodes ++ after) nodes =
      String.ofList
          (Text.trimEnd (hoistHead nodes ++ before ++ assignmentSource nodes ++ after).toList) ++
        "\n" ++ exportsSource nodes ++ "\n" ∧
      ∀ id ∈ Node.ids nodes, ¬ Declares id.toList (assignmentSource nodes).toList := by
  have tree : IsTree nodes := isTree_of_compile h
  have hleft : (before.toList.getLast?.or ((hoistHead nodes).toList.getLast?.or none)).any
      hidesKeyword = false := by
    cases hb : before.toList.getLast? with
    | none => simpa using hoistHead_getLast? nodes
    | some c => simpa [hb] using hend
  obtain ⟨freed, hfreed, hstub⟩ :=
    tree.pass_loadSource hnodup hids hspace after.toList hleft
  have hrest : pass (treeNames nodes) freed (some ';') after.toList = after.toList := by
    refine Scope.pass_of_declares fun name hname hdeclares => ?_
    obtain ⟨id, hid, rfl⟩ := mem_treeNames.1 hname
    obtain ⟨e, he, rfl⟩ := List.mem_map.1 hid
    refine hfreed e.1.id (tree.mem_bindings_of_bindsAt he ?_)
    cases hbinds : e.1.bindsAt e.2 with
    | true => rfl
    | false => exact absurd hdeclares (hafter e he hbinds)
  have hsource : Scope.free (Node.ids nodes) (hoisted (before ++ loadSource nodes ++ after) nodes) =
      hoistHead nodes ++ before ++ assignmentSource nodes ++ after := by
    rw [← String.toList_inj, tree.toList_free, hoisted_eq]
    simp only [String.toList_append, List.append_assoc]
    rw [(tree.quiet_hoistHead hids).pass_eq, (tree.quiet_before hids hend hbefore).pass_eq, hstub,
      hrest]
  refine ⟨?_, tree.not_declares_assignmentSource hids hspace⟩
  rw [assemble, hsource]

end

/-- A package, one that is loaded for its effects, and a path, inside a function. -/
theorem assemble_eq_wrapped :
    let _ : Depths := .ofCalls 900
    let raw := Value.arr
      [.obj [("name", .str "left-pad"), ("alias", .str "pad")], .obj [("name", .str "shim")],
        .obj [("name", .str "lib"), ("alias", .str "lib"),
          ("exports", .arr [.obj [("name", .str "u"), ("alias", .str "k")]])]]
    let tokens := ["firstfirst", "secondsecond", "thirdthird", "fourthfourth"]
    let path : Node := ⟨"fourthfourth", "u", some "k", [],
      some "var fourthfourth = require(\"lib/u\")", some "var fourthfourth"⟩
    let nodes : List Node :=
      [⟨"firstfirst", "left-pad", some "pad", [],
          some "var firstfirst = require(\"left-pad\")", some "var firstfirst"⟩,
        ⟨"secondsecond", "shim", none, [], some "require(\"shim\")", none⟩,
        ⟨"thirdthird", "lib", some "lib", [path], none, none⟩]
    let before := "(function () \x7b\n"
    let after := "\n\x7d)();\n"
    (∃ supply', compile raw (Random.fresh, tokens) = (.ok nodes, supply')) ∧
      (Node.ids nodes).Nodup ∧ (∀ id ∈ Node.ids nodes, IsSafeName id) ∧
      (∀ e ∈ Node.forest nodes, ' ' ∉ e.1.name.toList) ∧
      before.toList.getLast?.any hidesKeyword = false ∧
      (∀ id ∈ Node.ids nodes, ¬ Declares id.toList before.toList) ∧
      (∀ e ∈ Node.forest nodes, e.1.bindsAt e.2 = false → ¬ Declares e.1.id.toList after.toList) ∧
      assemble (before ++ loadSource nodes ++ after) nodes =
        "var firstfirst;\nvar fourthfourth;\n(function () \x7b\n" ++
          "firstfirst = require(\"left-pad\");\nrequire(\"shim\");\n" ++
          "fourthfourth = require(\"lib/u\");\n\x7d)();\nmodule.exports = \x7b\n" ++
          "  \"pad\": firstfirst,\n  \"lib\": \x7b\n    \"k\": fourthfourth,\n  \x7d,\n\x7d;\n" := by
  intro _ raw tokens path nodes before after
  obtain ⟨supply', h⟩ : ∃ supply', compile raw (Random.fresh, tokens) = (.ok nodes, supply') :=
    ⟨_, rfl⟩
  have hnodup : (Node.ids nodes).Nodup := by decide
  have hsafe : ∀ id ∈ Node.ids nodes, IsSafeName id := by decide
  have hspace : ∀ e ∈ Node.forest nodes, ' ' ∉ e.1.name.toList := by decide
  have hend : before.toList.getLast?.any hidesKeyword = false := by decide
  have quiet {text : String}
      (hcut : Scope.cut (treeNames nodes) none 0 text.toList = text.toList.map .char) :
      ∀ id ∈ Node.ids nodes, ¬ Declares id.toList text.toList := fun id hid =>
    Scope.not_declares_of_cut (isLetterName_of_mem_treeNames hsafe) hcut id.toList
      (mem_treeNames.2 ⟨id, hid, rfl⟩)
  have hbefore : ∀ id ∈ Node.ids nodes, ¬ Declares id.toList before.toList := quiet (by decide)
  have hafter : ∀ e ∈ Node.forest nodes, e.1.bindsAt e.2 = false →
      ¬ Declares e.1.id.toList after.toList := fun e he _ =>
    quiet (by decide) e.1.id (List.mem_map_of_mem he)
  refine ⟨⟨supply', h⟩, hnodup, hsafe, hspace, hend, hbefore, hafter, ?_⟩
  rw [(assemble_eq h hnodup hsafe hspace hend hbefore hafter).1]
  decide +kernel

end ExportBundle.Export
