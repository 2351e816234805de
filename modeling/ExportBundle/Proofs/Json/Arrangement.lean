import ExportBundle.Json.Value
import ExportBundle.Proofs.OrderedMap
import ExportBundle.Proofs.Sorting
import ExportBundle.Text.Units
import Mathlib.Data.List.Nodup
import Mathlib.Data.List.Perm.Basic

/-! The order of the members of a document. Documents that differ in it at any level are one document
with its members rearranged, and putting the members of every object in the order of their names gives
one arrangement for all of them. Main statement: documents whose objects have no name twice are
rearrangements of each other exactly if they have the same sorted arrangement. -/

namespace ExportBundle.Json

namespace Value

/-- What holds of a row as soon as it holds of the items, and of an object as soon as it holds of the
values of its members, holds of every document. -/
@[elab_as_elim]
theorem nestedInduction {P : Value → Prop} (null : P .null) (bool : ∀ b, P (.bool b))
    (int : ∀ n, P (.int n)) (float : ∀ x, P (.float x)) (str : ∀ s, P (.str s))
    (arr : ∀ items, (∀ v ∈ items, P v) → P (.arr items))
    (obj : ∀ members, (∀ m ∈ members, P m.2) → P (.obj members)) (v : Value) : P v :=
  @Value.rec P (fun items => ∀ v ∈ items, P v) (fun members => ∀ m ∈ members, P m.2)
    (fun m => P m.2) null bool int float str arr obj (fun _ h => nomatch h)
    (fun _ _ hv hr => List.forall_mem_cons.2 ⟨hv, hr⟩) (fun _ h => nomatch h)
    (fun _ _ hm hr => List.forall_mem_cons.2 ⟨hm, hr⟩) (fun _ _ h => h) v

/-- The second document is the first with the members of its objects in another order, at any
level. -/
inductive Rearranged : Value → Value → Prop
  | refl (v : Value) : Rearranged v v
  | trans {u v w : Value} (h : Rearranged u v) (h' : Rearranged v w) : Rearranged u w
  | members {members members' : List (String × Value)} (h : members.Perm members') :
    Rearranged (.obj members) (.obj members')
  | item (front back : List Value) {v w : Value} (h : Rearranged v w) :
    Rearranged (.arr (front ++ v :: back)) (.arr (front ++ w :: back))
  | member (front back : List (String × Value)) (name : String) {v w : Value}
    (h : Rearranged v w) :
    Rearranged (.obj (front ++ (name, v) :: back)) (.obj (front ++ (name, w) :: back))

/-- The members of every object inside have the property. -/
inductive EveryObject (P : OrderedMap String Value → Prop) : Value → Prop
  | null : EveryObject P .null
  | bool (b : Bool) : EveryObject P (.bool b)
  | int (n : Int) : EveryObject P (.int n)
  | float (x : Binary64) : EveryObject P (.float x)
  | str (s : String) : EveryObject P (.str s)
  | arr {items : List Value} (h : ∀ v ∈ items, EveryObject P v) : EveryObject P (.arr items)
  | obj {members : List (String × Value)} (own : P members)
    (h : ∀ m ∈ members, EveryObject P m.2) : EveryObject P (.obj members)

def HasDistinctNames : Value → Prop := EveryObject fun members => members.keys.Nodup

def HasSortedNames : Value → Prop :=
  EveryObject fun members => members.keys.Pairwise fun s t => Text.compareTexts s t = .lt

def memberOrder (m m' : String × Value) : Bool := Text.inOrder m.1 m'.1

mutual

/-- The document with the members of all objects in the order of their names. -/
def arranged : Value → Value
  | .arr items => .arr (arrangedItems items)
  | .obj members => .obj (Sorting.sort memberOrder (arrangedMembers members))
  | .null => .null
  | .bool b => .bool b
  | .int n => .int n
  | .float x => .float x
  | .str s => .str s

def arrangedItems : List Value → List Value
  | [] => []
  | v :: r => v.arranged :: arrangedItems r

def arrangedMembers : List (String × Value) → List (String × Value)
  | [] => []
  | (k, v) :: r => (k, v.arranged) :: arrangedMembers r

end

theorem arrangedItems_eq (items : List Value) : arrangedItems items = items.map arranged := by
  induction items with
  | nil => rfl
  | cons v r ih => rw [arrangedItems, ih, List.map_cons]

theorem arrangedMembers_eq (members : List (String × Value)) :
    arrangedMembers members = members.map fun m => (m.1, m.2.arranged) := by
  induction members with
  | nil => rfl
  | cons m r ih => rw [arrangedMembers, ih, List.map_cons]

/-! The order of members -/

theorem memberOrder_total (m m' : String × Value) :
    memberOrder m m' = true ∨ memberOrder m' m = true := Text.inOrder_total m.1 m'.1

theorem memberOrder_trans (m₁ m₂ m₃ : String × Value) (h : memberOrder m₁ m₂ = true)
    (h' : memberOrder m₂ m₃ = true) : memberOrder m₁ m₃ = true := Text.inOrder_trans h h'

theorem sort_members_eq {members members' : List (String × Value)}
    (hnames : (OrderedMap.keys members).Nodup) (h : members.Perm members') :
    Sorting.sort memberOrder members = Sorting.sort memberOrder members' := by
  refine Sorting.sort_eq_of_perm memberOrder_total memberOrder_trans h fun m hm m' hm' hle hge => ?_
  exact List.inj_on_of_nodup_map hnames hm hm' (Text.eq_of_inOrder hle hge)

theorem sorted_names {members : List (String × Value)} (hnames : (OrderedMap.keys members).Nodup) :
    (OrderedMap.keys (Sorting.sort memberOrder members)).Pairwise
      fun s t => Text.compareTexts s t = .lt := by
  have hperm := Sorting.sort_perm memberOrder members
  have hdistinct : (OrderedMap.keys (Sorting.sort memberOrder members)).Nodup :=
    (hperm.map Prod.fst).nodup_iff.2 hnames
  have hordered := Sorting.pairwise_sort memberOrder_total memberOrder_trans members
  rw [OrderedMap.keys, List.pairwise_map] at *
  rw [List.Nodup, List.pairwise_map] at hdistinct
  exact (hordered.and hdistinct).imp fun h => Text.compareTexts_eq_lt h.1 h.2

/-! Rearranged parts make a rearranged whole -/

theorem Rearranged.symm {v w : Value} (h : Rearranged v w) : Rearranged w v := by
  induction h with
  | refl v => exact .refl v
  | trans _ _ ih ih' => exact ih'.trans ih
  | members h => exact .members h.symm
  | item front back _ ih => exact .item front back ih
  | member front back name _ ih => exact .member front back name ih

theorem rearranged_items {f : Value → Value} (front : List Value) {items : List Value}
    (h : ∀ v ∈ items, Rearranged v (f v)) :
    Rearranged (.arr (front ++ items)) (.arr (front ++ items.map f)) := by
  induction items generalizing front with
  | nil => exact .refl _
  | cons v r ih =>
    have hrest := ih (front ++ [f v]) fun w hw => h w (List.mem_cons_of_mem v hw)
    rw [List.append_assoc, List.append_assoc] at hrest
    exact (Rearranged.item front r (h v (by simp))).trans hrest

theorem rearranged_members {f : Value → Value} (front : List (String × Value))
    {members : List (String × Value)} (h : ∀ m ∈ members, Rearranged m.2 (f m.2)) :
    Rearranged (.obj (front ++ members))
      (.obj (front ++ members.map fun m => (m.1, f m.2))) := by
  induction members generalizing front with
  | nil => exact .refl _
  | cons m r ih =>
    have hrest := ih (front ++ [(m.1, f m.2)]) fun e he => h e (List.mem_cons_of_mem m he)
    rw [List.append_assoc, List.append_assoc] at hrest
    exact (Rearranged.member front r m.1 (h m (by simp))).trans hrest

theorem rearranged_arranged (v : Value) : Rearranged v v.arranged := by
  induction v using nestedInduction with
  | null => exact .refl _
  | bool b => exact .refl _
  | int n => exact .refl _
  | float x => exact .refl _
  | str s => exact .refl _
  | arr items ih =>
    rw [arranged, arrangedItems_eq]
    exact rearranged_items [] ih
  | obj members ih =>
    rw [arranged, arrangedMembers_eq]
    exact (rearranged_members [] ih).trans (.members (Sorting.sort_perm memberOrder _).symm)

/-! One arrangement for all -/

theorem forall_replace {α : Type} {P : α → Prop} {front back : List α} {a b : α}
    (h : ∀ x ∈ front ++ a :: back, P x) (hb : P b) : ∀ x ∈ front ++ b :: back, P x := by
  rw [List.forall_mem_append, List.forall_mem_cons] at h ⊢
  exact ⟨h.1, hb, h.2.2⟩

theorem keys_replace (front back : List (String × Value)) (name : String) (v w : Value) :
    OrderedMap.keys (front ++ (name, w) :: back) = OrderedMap.keys (front ++ (name, v) :: back) := by
  simp [OrderedMap.keys]

theorem Rearranged.arranged_eq {v w : Value} (h : Rearranged v w) (hv : v.HasDistinctNames) :
    w.HasDistinctNames ∧ v.arranged = w.arranged := by
  induction h with
  | refl _ => exact ⟨hv, rfl⟩
  | trans _ _ ih ih' =>
    obtain ⟨hmiddle, heq⟩ := ih hv
    obtain ⟨hw, heq'⟩ := ih' hmiddle
    exact ⟨hw, heq.trans heq'⟩
  | @members members members' h =>
    cases hv with
    | obj hnames hmembers =>
      refine ⟨.obj ((h.map Prod.fst).nodup_iff.1 hnames)
        fun m hm => hmembers m (h.mem_iff.2 hm), ?_⟩
      have hkeys : (OrderedMap.keys (members.map fun m => (m.1, m.2.arranged))).Nodup := by
        rw [OrderedMap.keys, List.map_map]
        exact hnames
      rw [arranged, arranged, arrangedMembers_eq, arrangedMembers_eq,
        sort_members_eq hkeys (h.map _)]
  | @item front back v w _ ih =>
    cases hv with
    | arr hitems =>
      obtain ⟨hw, heq⟩ := ih (hitems v (by simp))
      refine ⟨.arr (forall_replace hitems hw), ?_⟩
      rw [arranged, arranged, arrangedItems_eq, arrangedItems_eq, List.map_append, List.map_append,
        List.map_cons, List.map_cons, heq]
  | @member front back name v w _ ih =>
    cases hv with
    | obj hnames hmembers =>
      obtain ⟨hw, heq⟩ := ih (hmembers (name, v) (by simp))
      refine ⟨.obj (by rwa [keys_replace front back name v w]) (forall_replace hmembers hw), ?_⟩
      rw [arranged, arranged, arrangedMembers_eq, arrangedMembers_eq, List.map_append,
        List.map_append, List.map_cons, List.map_cons, heq]

theorem rearranged_iff {v w : Value} (hv : v.HasDistinctNames) :
    Rearranged v w ↔ v.arranged = w.arranged := by
  refine ⟨fun h => (h.arranged_eq hv).2, fun h => ?_⟩
  have hback := (rearranged_arranged w).symm
  rw [← h] at hback
  exact (rearranged_arranged v).trans hback

theorem HasDistinctNames.hasSortedNames {v : Value} (h : v.HasDistinctNames) :
    v.arranged.HasSortedNames := by
  induction h with
  | null => exact .null
  | bool b => exact .bool b
  | int n => exact .int n
  | float x => exact .float x
  | str s => exact .str s
  | @arr items _ ih =>
    rw [arranged, arrangedItems_eq]
    exact .arr (List.forall_mem_map.2 ih)
  | @obj members hnames _ ih =>
    rw [arranged, arrangedMembers_eq]
    refine .obj (sorted_names ?_) fun m hm => ?_
    · rw [OrderedMap.keys, List.map_map]
      exact hnames
    · obtain ⟨e, he, rfl⟩ := List.mem_map.1 ((Sorting.mem_sort memberOrder).1 hm)
      exact ih e he

/-! What a rearrangement leaves as it is -/

theorem depthOfItems_eq (items : List Value) :
    depthOfItems items = (items.map depth).foldr max 0 := by
  induction items with
  | nil => rfl
  | cons v r ih => rw [depthOfItems, ih, List.map_cons, List.foldr_cons]

theorem depthOfMembers_eq (members : List (String × Value)) :
    depthOfMembers members = (members.map (·.2.depth)).foldr max 0 := by
  induction members with
  | nil => rfl
  | cons m r ih => rw [depthOfMembers, ih, List.map_cons, List.foldr_cons]

theorem allFit_eq (items : List Value) : allFit items = (items.map fitsDigitLimit).all id := by
  induction items with
  | nil => rfl
  | cons v r ih =>
    rw [allFit, ih]
    rfl

theorem allMembersFit_eq (members : List (String × Value)) :
    allMembersFit members = (members.map (·.2.fitsDigitLimit)).all id := by
  induction members with
  | nil => rfl
  | cons m r ih =>
    rw [allMembersFit, ih]
    rfl

theorem Rearranged.depth_eq {v w : Value} (h : Rearranged v w) : v.depth = w.depth := by
  induction h with
  | refl _ => rfl
  | trans _ _ ih ih' => exact ih.trans ih'
  | members h => rw [depth, depth, depthOfMembers_eq, depthOfMembers_eq, (h.map _).foldr_eq]
  | item front back _ ih =>
    rw [depth, depth, depthOfItems_eq, depthOfItems_eq, List.map_append, List.map_append,
      List.map_cons, List.map_cons, ih]
  | member front back name _ ih =>
    rw [depth, depth, depthOfMembers_eq, depthOfMembers_eq, List.map_append, List.map_append,
      List.map_cons, List.map_cons, ih]

theorem Rearranged.fits_eq {v w : Value} (h : Rearranged v w) :
    v.fitsDigitLimit = w.fitsDigitLimit := by
  induction h with
  | refl _ => rfl
  | trans _ _ ih ih' => exact ih.trans ih'
  | members h =>
    rw [fitsDigitLimit, fitsDigitLimit, allMembersFit_eq, allMembersFit_eq, (h.map _).all_eq]
  | item front back _ ih =>
    rw [fitsDigitLimit, fitsDigitLimit, allFit_eq, allFit_eq, List.map_append, List.map_append,
      List.map_cons, List.map_cons, ih]
  | member front back name _ ih =>
    rw [fitsDigitLimit, fitsDigitLimit, allMembersFit_eq, allMembersFit_eq, List.map_append,
      List.map_append, List.map_cons, List.map_cons, ih]

end Value

end ExportBundle.Json
