import ExportBundle.Export.ModulePath
import ExportBundle.Proofs.Text.Split

/-! Paths with single slashes. Collapsing leaves no two slashes side by side, keeps both ends and
what stands between the slashes, and the parts of a text may be collapsed before they are put
together. Main statement: the laws of joining, associativity with them. -/

namespace ExportBundle.Export.ModulePath

open Text (split split_append_cons)

variable {cs r r' : List Char} {c : Char}

theorem collapse_cons (c : Char) (r : List Char) : collapse (c :: r) =
    if c = '/' ∧ r.head? = some '/' then collapse r else c :: collapse r := by
  cases r with
  | nil => simp [collapse]
  | cons d r =>
    by_cases h : c = '/' ∧ d = '/'
    · obtain ⟨rfl, rfl⟩ := h
      rw [if_pos ⟨rfl, rfl⟩, collapse]
    · rw [collapse, if_neg (by simpa using h)]
      rintro r rfl hr
      exact h ⟨rfl, (List.cons.inj hr).1⟩

theorem head?_collapse (cs : List Char) : (collapse cs).head? = cs.head? := by
  fun_induction collapse cs with
  | case1 r ih => exact ih
  | case2 c r _ ih => rfl
  | case3 => rfl

theorem getLast?_collapse (cs : List Char) : (collapse cs).getLast? = cs.getLast? := by
  fun_induction collapse cs with
  | case1 r ih => rw [ih, List.getLast?_cons_cons]
  | case2 c r _ ih => rw [List.getLast?_cons, List.getLast?_cons, ih]
  | case3 => rfl

theorem mem_collapse : c ∈ collapse cs ↔ c ∈ cs := by
  fun_induction collapse cs with
  | case1 r ih => simp [ih]
  | case2 d r _ ih => rw [List.mem_cons, List.mem_cons, ih]
  | case3 => rfl

theorem double_slash_cons_iff : ['/', '/'] <:+: c :: r ↔
    (c = '/' ∧ r.head? = some '/') ∨ ['/', '/'] <:+: r := by
  have hfront : ['/'] <+: r ↔ r.head? = some '/' := by
    cases r with
    | nil => simp
    | cons d r => simp [List.cons_prefix_cons, eq_comm]
  rw [List.infix_cons_iff, List.cons_prefix_cons, hfront, eq_comm]

theorem no_double_slash_collapse (cs : List Char) : ¬ ['/', '/'] <:+: collapse cs := by
  induction cs with
  | nil => simp [collapse]
  | cons c r ih =>
    rw [collapse_cons]
    split
    · exact ih
    · rename_i hsingle
      rw [double_slash_cons_iff, head?_collapse]
      exact not_or_intro hsingle ih

theorem collapse_eq_self (h : ¬ ['/', '/'] <:+: cs) : collapse cs = cs := by
  induction cs with
  | nil => simp [collapse]
  | cons c r ih =>
    rw [double_slash_cons_iff, not_or] at h
    rw [collapse_cons, if_neg h.1, ih h.2]

theorem collapse_collapse (cs : List Char) : collapse (collapse cs) = collapse cs :=
  collapse_eq_self (no_double_slash_collapse cs)

theorem collapse_cons_congr (h : collapse r = collapse r') :
    collapse (c :: r) = collapse (c :: r') := by
  have hhead : r.head? = r'.head? := by rw [← head?_collapse r, h, head?_collapse]
  rw [collapse_cons, collapse_cons, hhead, h]

theorem collapse_append_collapse (a b : List Char) :
    collapse (a ++ collapse b) = collapse (a ++ b) := by
  induction a with
  | nil => exact collapse_collapse b
  | cons c a ih => exact collapse_cons_congr ih

theorem collapse_collapse_append (a b : List Char) :
    collapse (collapse a ++ b) = collapse (a ++ b) := by
  induction a with
  | nil => simp [collapse]
  | cons c a ih =>
    rw [collapse_cons c a]
    split
    · rename_i hdouble
      have hhead : (a ++ b).head? = some '/' := by
        rw [List.head?_append, hdouble.2]
        rfl
      rw [ih, List.cons_append, collapse_cons, if_pos ⟨hdouble.1, hhead⟩]
    · exact collapse_cons_congr ih

/-- What stands between the slashes of a path, where there is something. -/
def segments (cs : List Char) : List (List Char) := (split '/' cs).filter (!·.isEmpty)

theorem segments_append_slash (a b : List Char) :
    segments (a ++ '/' :: b) = segments a ++ segments b := by
  rw [segments, split_append_cons, List.filter_append]
  rfl

theorem segments_append_collapse (a cs : List Char) :
    segments (a ++ collapse cs) = segments (a ++ cs) := by
  fun_induction collapse cs generalizing a with
  | case1 r ih =>
    have hslash : segments ('/' :: r) = segments r := segments_append_slash [] r
    rw [ih, segments_append_slash, segments_append_slash, hslash]
  | case2 c r _ ih => simpa using ih (a ++ [c])
  | case3 => rfl

theorem segments_collapse (cs : List Char) : segments (collapse cs) = segments cs :=
  segments_append_collapse [] cs

theorem toList_join (a b : String) :
    (join a b).toList = collapse (a.toList ++ '/' :: b.toList) :=
  String.toList_ofList

theorem head?_join (a b : String) : (join a b).toList.head? = some '/' ↔
    a = "" ∨ a.toList.head? = some '/' := by
  rw [toList_join, head?_collapse]
  cases h : a.toList with
  | nil => simp [← String.toList_eq_nil_iff, h]
  | cons c r => simp [← String.toList_eq_nil_iff, h]

theorem getLast?_join (a b : String) : (join a b).toList.getLast? = some '/' ↔
    b = "" ∨ b.toList.getLast? = some '/' := by
  rw [toList_join, getLast?_collapse]
  cases h : b.toList with
  | nil => simp [← String.toList_eq_nil_iff, h]
  | cons c r => simp [← String.toList_eq_nil_iff, h, List.getLast?_append, List.getLast?_cons]

theorem join_assoc (a b c : String) : join (join a b) c = join a (join b c) := by
  have hleft : (join (join a b) c).toList =
      collapse (a.toList ++ '/' :: (b.toList ++ '/' :: c.toList)) := by
    rw [toList_join, toList_join, collapse_collapse_append, List.append_assoc, List.cons_append]
  have hright : (join a (join b c)).toList =
      collapse (a.toList ++ '/' :: (b.toList ++ '/' :: c.toList)) := by
    rw [toList_join, toList_join, List.append_cons, collapse_append_collapse, ← List.append_cons]
  exact String.toList_inj.1 (hleft.trans hright.symm)

/-- A joined path has slashes, but no two side by side. Its segments are those of the parts in turn.
It begins with a slash if the first part is empty or begins with one, and ends with a slash if the
second part is empty or ends with one, and not otherwise. Joining is associative. -/
theorem join_laws (a b c : String) :
    ¬ ['/', '/'] <:+: (join a b).toList ∧ '/' ∈ (join a b).toList ∧
      segments (join a b).toList = segments a.toList ++ segments b.toList ∧
      ((join a b).toList.head? = some '/' ↔ a = "" ∨ a.toList.head? = some '/') ∧
      ((join a b).toList.getLast? = some '/' ↔ b = "" ∨ b.toList.getLast? = some '/') ∧
      join (join a b) c = join a (join b c) := by
  refine ⟨?_, ?_, ?_, head?_join a b, getLast?_join a b, join_assoc a b c⟩
  · rw [toList_join]
    exact no_double_slash_collapse _
  · rw [toList_join, mem_collapse]
    simp
  · rw [toList_join, segments_collapse, segments_append_slash]

example : join "pkg/" "/dist//a" = "pkg/dist/a" := by decide

end ExportBundle.Export.ModulePath
