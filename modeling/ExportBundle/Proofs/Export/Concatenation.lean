import ExportBundle.Export.Spec
import ExportBundle.Proofs.Export.Reading
import ExportBundle.Proofs.Export.Statements

/-! Lists of exports put one behind the other. Reading takes them in turn: the second list is read
with what the first one left of the supply, and not at all once the first one failed. The sources of
the nodes stand one behind the other as well. -/

namespace ExportBundle.Export

open Identifier (Supply)

variable {α σ β : Type}

/-- What a reading ends with when another follows it on the rest of the supply: the nodes of both,
or the first error. -/
def inTurn (first : Except SpecError (List Node) × σ)
    (second : σ → Except SpecError (List Node) × σ) : Except SpecError (List Node) × σ :=
  match first with
  | (.error e, s) => (.error e, s)
  | (.ok nodes, s) =>
    match second s with
    | (.error e, s) => (.error e, s)
    | (.ok more, s) => (.ok (nodes ++ more), s)

theorem inTurn_eq_ok {first : Except SpecError (List Node) × σ}
    {second : σ → Except SpecError (List Node) × σ} {nodes : List Node} {t : σ}
    (h : inTurn first second = (.ok nodes, t)) :
    ∃ front s back, first = (.ok front, s) ∧ second s = (.ok back, t) ∧ nodes = front ++ back := by
  obtain ⟨e | front, s⟩ := first
  · cases h
  · simp only [inTurn] at h
    cases hsecond : second s with
    | mk result u =>
      rw [hsecond] at h
      cases result with
      | error e => cases h
      | ok back =>
        cases h
        exact ⟨front, s, back, rfl, hsecond, rfl⟩

theorem run_mapM_append (f : β → Reading σ Node) (front back : List β) (s : σ) :
    ((front ++ back).mapM f).run.run s =
      inTurn ((front.mapM f).run.run s) (back.mapM f).run.run := by
  rw [List.mapM_append, run_bind]
  rcases (front.mapM f).run.run s with ⟨e | nodes, t⟩
  · rfl
  · simp only [run_bind, inTurn]
    rcases (back.mapM f).run.run t with ⟨e | more, u⟩ <;> rfl

section

variable [Document α] [Supply σ]

theorem readLevels_eq {levels : Nat} {parent : Option Node} {depth : Int} {raw : α} {items : List α}
    (hraw : Document.items? raw = some items) (hne : items ≠ []) :
    (readLevels levels parent depth raw : Reading σ (List Node)) =
      match levels with
      | 0 => throw (.tooDeep depth)
      | levels + 1 => items.mapM (readExport
          (fun head raw => readLevels levels (some head) (depth + 1) raw) parent depth) := by
  obtain ⟨item, items, rfl⟩ := List.exists_cons_of_ne_nil hne
  conv_lhs => unfold readLevels
  rw [hraw]
  cases levels <;> rfl

theorem readExportsAt_append {a b c : α} {front back : List α} (parent : Option Node) (depth : Int)
    (s : σ) (hfront : front ≠ []) (hback : back ≠ []) (ha : Document.items? a = some front)
    (hb : Document.items? b = some back) (hc : Document.items? c = some (front ++ back)) :
    (readExportsAt parent depth c).run.run s =
      inTurn ((readExportsAt parent depth a).run.run s) (readExportsAt parent depth b).run.run := by
  have hne : front ++ back ≠ [] := List.append_ne_nil_of_left_ne_nil hfront back
  simp only [readExportsAt, readLevels_eq ha hfront, readLevels_eq hb hback, readLevels_eq hc hne]
  cases (maxDepth + 1 - depth).toNat with
  | zero => rfl
  | succ levels => exact run_mapM_append _ front back s

end

/-! The sources of rows of nodes -/

def joined (texts : List String) : String := "\n".intercalate (texts.filter (· ≠ ""))

theorem joined_pair_of_empty {s t : String} (h : s = "" ∨ t = "") : joined [s, t] = s ++ t := by
  rcases h with rfl | rfl
  · by_cases ht : t = "" <;> simp [joined, ht]
  · by_cases hs : s = "" <;> simp [joined, hs]

theorem joined_pair {s t : String} (hs : s ≠ "") (ht : t ≠ "") :
    joined [s, t] = s ++ "\n" ++ t := by
  simp [joined, hs, ht]

theorem statements_append (front back : List String) :
    statements (front ++ back) = joined [statements front, statements back] := by
  have hnil : statements [] = "" := rfl
  by_cases hfront : front = []
  · rw [hfront, hnil, joined_pair_of_empty (.inl rfl), List.nil_append, String.empty_append]
  by_cases hback : back = []
  · rw [hback, hnil, joined_pair_of_empty (.inr rfl), List.append_nil, String.append_empty]
  have hne : front ++ back ≠ [] := List.append_ne_nil_of_left_ne_nil hfront back
  rw [joined_pair (statements_ne_empty hfront) (statements_ne_empty hback), statements_eq hne,
    statements_eq hfront, statements_eq hback, List.map_append]
  exact String.intercalate_append_of_ne_nil (by simpa using hfront) (by simpa using hback)

theorem loadSource_append (front back : List Node) :
    loadSource (front ++ back) = joined [loadSource front, loadSource back] := by
  rw [loadSource, Node.forest, Node.walkAll_append, List.filterMap_append, statements_append]
  rfl

theorem hoistSource_append (front back : List Node) :
    hoistSource (front ++ back) = joined [hoistSource front, hoistSource back] := by
  rw [hoistSource, Node.forest, Node.walkAll_append, List.filterMap_append, statements_append]
  rfl

end ExportBundle.Export
