/-! Maps that keep their entries in the order in which the keys first came. Putting a value under a
key that is there replaces the value and leaves the key in its place. -/

namespace ExportBundle

abbrev OrderedMap (κ α : Type) := List (κ × α)

namespace OrderedMap

variable {κ α β : Type} [BEq κ]

def get? (m : OrderedMap κ α) (k : κ) : Option α :=
  (m.find? fun e => e.1 == k).map (·.2)

def contains (m : OrderedMap κ α) (k : κ) : Bool := m.any fun e => e.1 == k

def put (m : OrderedMap κ α) (k : κ) (a : α) : OrderedMap κ α :=
  match m with
  | [] => [(k, a)]
  | e :: r => if e.1 == k then (e.1, a) :: r else e :: put r k a

def keys (m : OrderedMap κ α) : List κ := m.map (·.1)

def ofEntries (entries : List (κ × α)) : OrderedMap κ α :=
  entries.foldl (fun m e => m.put e.1 e.2) []

@[simp] theorem get?_nil (k : κ) : get? ([] : OrderedMap κ α) k = none := rfl

theorem contains_eq_isSome (m : OrderedMap κ α) (k : κ) : m.contains k = (m.get? k).isSome := by
  induction m with
  | nil => rfl
  | cons e r ih =>
    simp only [contains, get?, List.any_cons, List.find?_cons] at ih ⊢
    cases e.1 == k <;> simp [ih]

/-- A new key goes to the end, and a known one leaves the row of keys as it is. -/
theorem keys_put (m : OrderedMap κ α) (k : κ) (a : α) :
    (m.put k a).keys = if m.contains k then m.keys else m.keys ++ [k] := by
  induction m with
  | nil => rfl
  | cons e r ih =>
    by_cases h : e.1 == k
    · simp [put, keys, contains, h]
    · simp only [put, h, Bool.false_eq_true, if_false, keys, contains, List.map_cons,
        List.any_cons, Bool.false_or] at ih ⊢
      rw [ih]
      split <;> simp [*]

section Lawful

variable [LawfulBEq κ]

theorem get?_put (m : OrderedMap κ α) (k k' : κ) (a : α) :
    (m.put k a).get? k' = if k == k' then some a else m.get? k' := by
  induction m with
  | nil => by_cases h : k == k' <;> simp [put, get?, h]
  | cons e r ih =>
    obtain ⟨x, v⟩ := e
    simp only [put]
    by_cases h : x == k
    · obtain rfl := eq_of_beq h
      by_cases h' : x == k' <;> simp [get?, h']
    · simp only [h, Bool.false_eq_true, if_false]
      by_cases h' : x == k'
      · obtain rfl := eq_of_beq h'
        have : (k == x) = false := by
          simp only [beq_eq_false_iff_ne, ne_eq]
          rintro rfl
          simp at h
        simp [get?, this]
      · simp only [get?, List.find?_cons, h'] at ih ⊢
        exact ih

end Lawful

end OrderedMap

end ExportBundle
