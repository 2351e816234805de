import ExportBundle.Identifier.Basic
import ExportBundle.Proofs.Export.Tree
import ExportBundle.Proofs.Text.Quoted
import ExportBundle.Text.Split

/-! Reading the statements of a tree back from their text, line by line. A name that is hoisted, or
bound to a module, stands on a line of its own. Main statement: the names that the hoisted
declarations declare are those that the statements bind. -/

namespace ExportBundle

namespace Identifier

/-- A name made of ASCII letters that is not reserved. -/
structure IsSafeName (name : String) : Prop where
  ne : name ≠ ""
  letters : ∀ c ∈ name.toList, isLetter c = true
  free : name ∉ reserved

theorem isSafeName_iff {name : String} : IsSafeName name ↔
    name ≠ "" ∧ (∀ c ∈ name.toList, isLetter c = true) ∧ name ∉ reserved :=
  ⟨fun h => ⟨h.ne, h.letters, h.free⟩, fun h => ⟨h.1, h.2.1, h.2.2⟩⟩

instance (name : String) : Decidable (IsSafeName name) := decidable_of_iff _ isSafeName_iff.symm

theorem notMem_of_letters {cs : List Char} (h : ∀ c ∈ cs, isLetter c = true) {c : Char}
    (hc : isLetter c = false) : c ∉ cs := by
  intro hm
  rw [h c hm] at hc
  cases hc

end Identifier

namespace Export

open Identifier (isLetter IsSafeName)

def linesOf (source : String) : List (List Char) := Text.split '\n' source.toList

/-- The name that a line declares, when what follows the name has the given form. -/
def declaredOn (form : List Char → Bool) : List Char → Option String
  | 'v' :: 'a' :: 'r' :: ' ' :: rest =>
    if form (rest.dropWhile isLetter) then some (String.ofList (rest.takeWhile isLetter)) else none
  | _ => none

def hoistedOn : List Char → Option String := declaredOn (· == [';'])

def boundOn : List Char → Option String := declaredOn (" = require(".toList.isPrefixOf ·)

def hoistedNames (source : String) : List String := (linesOf source).filterMap hoistedOn

def boundNames (source : String) : List String := (linesOf source).filterMap boundOn

theorem statements_eq {fragments : List String} (h : fragments ≠ []) :
    statements fragments = "\n".intercalate (fragments.map (· ++ ";")) := by
  have hempty : fragments.isEmpty = false := by simpa using h
  rw [statements, hempty]
  change ";\n".intercalate fragments ++ ";" = _
  clear hempty
  induction fragments with
  | nil => exact absurd rfl h
  | cons a r ih =>
    cases r with
    | nil => simp
    | cons b r =>
      have hbreak : a ++ ";\n" = a ++ ";" ++ "\n" := by
        rw [String.append_assoc]
        rfl
      rw [String.intercalate_cons_cons, String.append_assoc, ih (by simp), hbreak]
      simp only [List.map_cons, String.intercalate_cons_cons]

theorem statements_ne_empty {fragments : List String} (h : fragments ≠ []) :
    statements fragments ≠ "" := by
  have hempty : fragments.isEmpty = false := by simpa using h
  rw [statements, hempty]
  intro he
  exact absurd (String.append_eq_empty_iff.1 he).2 (by decide)

theorem statements_singleton (a : String) : statements [a] = a ++ ";" := by
  rw [statements_eq (by simp)]
  simp

theorem statements_cons_cons (a b : String) (r : List String) :
    statements (a :: b :: r) = a ++ ";" ++ "\n" ++ statements (b :: r) := by
  rw [statements_eq (by simp), statements_eq (by simp)]
  simp only [List.map_cons, String.intercalate_cons_cons]

theorem linesOf_intercalate {ls : List String} (hne : ls ≠ []) (h : ∀ l ∈ ls, '\n' ∉ l.toList) :
    linesOf ("\n".intercalate ls) = ls.map String.toList := by
  rw [linesOf, String.toList_intercalate]
  refine Text.split_intercalate (by simpa using hne) ?_
  intro l hl
  obtain ⟨s, hs, rfl⟩ := List.mem_map.1 hl
  exact h s hs

theorem filterMap_linesOf_statements {β : Type} {f : List Char → Option β} (hf : f [] = none)
    {fragments : List String} (h : ∀ s ∈ fragments, '\n' ∉ s.toList) :
    (linesOf (statements fragments)).filterMap f =
      fragments.filterMap fun s => f (s.toList ++ [';']) := by
  by_cases hne : fragments = []
  · subst hne
    change [[]].filterMap f = []
    simp [hf]
  · rw [statements_eq hne, linesOf_intercalate (by simpa using hne), List.map_map,
      List.filterMap_map]
    · congr
      funext s
      simp
    · intro l hl
      obtain ⟨s, hs, rfl⟩ := List.mem_map.1 hl
      simpa using h s hs

theorem declaredOn_append {form : List Char → Bool} {name : List Char}
    (h : ∀ c ∈ name, isLetter c = true) {rest : List Char} {c : Char} (hc : isLetter c = false) :
    declaredOn form ("var ".toList ++ name ++ c :: rest) =
      if form (c :: rest) then some (String.ofList name) else none := by
  have htake : (name ++ c :: rest).takeWhile isLetter = name := by
    rw [List.takeWhile_append_of_pos h, List.takeWhile_cons_of_neg (by simp [hc]), List.append_nil]
  have hdrop : (name ++ c :: rest).dropWhile isLetter = c :: rest := by
    rw [List.dropWhile_append_of_pos h, List.dropWhile_cons_of_neg (by simp [hc])]
  change (if form ((name ++ c :: rest).dropWhile isLetter) then
    some (String.ofList ((name ++ c :: rest).takeWhile isLetter)) else none) = _
  rw [htake, hdrop]

theorem hoistedOn_declaration {id : String} (h : ∀ c ∈ id.toList, isLetter c = true) :
    hoistedOn (("var " ++ id).toList ++ [';']) = some id := by
  rw [hoistedOn, String.toList_append, declaredOn_append h (by decide)]
  simp

theorem boundOn_load {l : Load} (h : ∀ id, l.binding = some id → ∀ c ∈ id.toList, isLetter c = true) :
    boundOn (l.text.toList ++ [';']) = l.binding := by
  obtain ⟨binding, path⟩ := l
  cases binding with
  | none =>
    have htext : (Load.text ⟨none, path⟩).toList ++ [';'] =
        "require(".toList ++ ((Text.jsonQuoted path).toList ++ [')', ';']) := by
      simp [Load.text, requireCall]
    rw [htext]
    rfl
  | some id =>
    have hid := h id rfl
    have htext : (Load.text ⟨some id, path⟩).toList ++ [';'] =
        "var ".toList ++ id.toList ++ ' ' :: ("= require(".toList ++
          ((Text.jsonQuoted path).toList ++ [')', ';'])) := by
      simp [Load.text, bindingStatement, requireCall]
    rw [htext, boundOn, declaredOn_append hid (by decide), if_pos]
    · simp
    · simp

theorem IsTree.isSafeName_of_mem_bindings {nodes : List Node} (h : IsTree nodes)
    (hids : ∀ id ∈ Node.ids nodes, IsSafeName id) {id : String} (hid : id ∈ bindings nodes) :
    IsSafeName id := hids id (h.bindings_sublist.subset hid)

end Export

end ExportBundle
