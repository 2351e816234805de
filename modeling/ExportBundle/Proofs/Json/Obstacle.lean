import ExportBundle.Json.Printer
import ExportBundle.Proofs.Json.Arrangement

/-! When a value can be written: its arrays and objects do not stand too deep in each other, and no
number inside is too long. -/

namespace ExportBundle.Json.Value

section

variable {room : Nat}

theorem obstacleOfItems?_eq_none_iff {items : List Value} :
    obstacleOfItems? items room = none ↔ ∀ v ∈ items, v.obstacle? room = none := by
  induction items with
  | nil => simp [obstacleOfItems?]
  | cons v r ih => rw [obstacleOfItems?, Option.or_eq_none_iff, ih, List.forall_mem_cons]

theorem obstacleOfMembers?_eq_none_iff {members : List (String × Value)} :
    obstacleOfMembers? members room = none ↔ ∀ m ∈ members, m.2.obstacle? room = none := by
  induction members with
  | nil => simp [obstacleOfMembers?]
  | cons m r ih => rw [obstacleOfMembers?, Option.or_eq_none_iff, ih, List.forall_mem_cons]

theorem depthOfItems_le_iff {items : List Value} :
    depthOfItems items ≤ room ↔ ∀ v ∈ items, v.depth ≤ room := by
  induction items with
  | nil => simp [depthOfItems]
  | cons v r ih => rw [depthOfItems, Nat.max_le, ih, List.forall_mem_cons]

theorem depthOfMembers_le_iff {members : List (String × Value)} :
    depthOfMembers members ≤ room ↔ ∀ m ∈ members, m.2.depth ≤ room := by
  induction members with
  | nil => simp [depthOfMembers]
  | cons m r ih => rw [depthOfMembers, Nat.max_le, ih, List.forall_mem_cons]

theorem obstacle?_eq_none_iff {v : Value} :
    v.obstacle? room = none ↔ v.depth ≤ room ∧ v.fitsDigitLimit = true := by
  induction v using nestedInduction generalizing room with
  | null | bool b | float x | str s => simp [obstacle?, depth, fitsDigitLimit]
  | int n => simp [obstacle?, depth, fitsDigitLimit]
  | arr items ih =>
    cases room with
    | zero => simp [obstacle?, depth]
    | succ room =>
      have hitems : (∀ v ∈ items, v.obstacle? room = none) ↔
          ∀ v ∈ items, v.depth ≤ room ∧ v.fitsDigitLimit = true :=
        forall₂_congr fun v hv => ih v hv
      rw [obstacle?, obstacleOfItems?_eq_none_iff, hitems, depth, Nat.add_le_add_iff_right,
        depthOfItems_le_iff, fitsDigitLimit, allFit_eq, List.all_map, List.all_eq_true,
        ← forall₂_and]
      rfl
  | obj members ih =>
    cases room with
    | zero => simp [obstacle?, depth]
    | succ room =>
      have hmembers : (∀ m ∈ members, m.2.obstacle? room = none) ↔
          ∀ m ∈ members, m.2.depth ≤ room ∧ m.2.fitsDigitLimit = true :=
        forall₂_congr fun m hm => ih m hm
      rw [obstacle?, obstacleOfMembers?_eq_none_iff, hmembers, depth, Nat.add_le_add_iff_right,
        depthOfMembers_le_iff, fitsDigitLimit, allMembersFit_eq, List.all_map, List.all_eq_true,
        ← forall₂_and]
      rfl

/-! Where no number is too long -/

theorem obstacleOfItems?_ne {o : Obstacle} {items : List Value}
    (h : ∀ v ∈ items, v.obstacle? room ≠ some o) : obstacleOfItems? items room ≠ some o := by
  induction items with
  | nil => exact nofun
  | cons v r ih =>
    obtain ⟨hv, hr⟩ := List.forall_mem_cons.1 h
    rw [obstacleOfItems?, ne_eq, Option.or_eq_some_iff]
    exact fun hor => hor.elim hv fun hlast => ih hr hlast.2

theorem obstacleOfMembers?_ne {o : Obstacle} {members : List (String × Value)}
    (h : ∀ m ∈ members, m.2.obstacle? room ≠ some o) :
    obstacleOfMembers? members room ≠ some o := by
  induction members with
  | nil => exact nofun
  | cons m r ih =>
    obtain ⟨hm, hr⟩ := List.forall_mem_cons.1 h
    rw [obstacleOfMembers?, ne_eq, Option.or_eq_some_iff]
    exact fun hor => hor.elim hm fun hlast => ih hr hlast.2

theorem obstacle?_ne_numberTooLong {v : Value} (h : v.fitsDigitLimit = true) :
    v.obstacle? room ≠ some .numberTooLong := by
  induction v using nestedInduction generalizing room with
  | null | bool b | float x | str s => simp [obstacle?]
  | int n =>
    rw [fitsDigitLimit] at h
    simp [obstacle?, h]
  | arr items ih =>
    rw [fitsDigitLimit, allFit_eq, List.all_map, List.all_eq_true] at h
    cases room with
    | zero => simp [obstacle?]
    | succ room => exact obstacleOfItems?_ne fun v hv => ih v hv (h v hv)
  | obj members ih =>
    rw [fitsDigitLimit, allMembersFit_eq, List.all_map, List.all_eq_true] at h
    cases room with
    | zero => simp [obstacle?]
    | succ room => exact obstacleOfMembers?_ne fun m hm => ih m hm (h m hm)

theorem obstacle?_of_deep {v : Value} (hfits : v.fitsDigitLimit = true) (hdeep : room < v.depth) :
    v.obstacle? room = some .tooDeep := by
  cases ho : v.obstacle? room with
  | none =>
    have hle := (obstacle?_eq_none_iff.1 ho).1
    omega
  | some o =>
    cases o with
    | tooDeep => rfl
    | numberTooLong => exact absurd ho (obstacle?_ne_numberTooLong hfits)

end

variable {depths : Depths} {f : Style} {v : Value}

theorem shown_eq_ok (hdepth : v.depth ≤ Depths.showing) (hfits : v.fitsDigitLimit = true) :
    v.shown f = .ok (v.print f) := by
  rw [shown, obstacle?_eq_none_iff.2 ⟨hdepth, hfits⟩]

theorem shown_of_deep (hdeep : Depths.showing < v.depth) (hfits : v.fitsDigitLimit = true) :
    v.shown f = .error .tooDeep := by
  rw [shown, obstacle?_of_deep hfits hdeep]

end ExportBundle.Json.Value
