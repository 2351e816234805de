import ExportBundle.Config.Merge
import ExportBundle.Proofs.Json.Arrangement

/-! Merging documents whose objects have no name twice. What stands under a name in a merged object
depends on what stands there on both sides, and the names of the base come first. Objects are merged
if on one side they do not stand too deep in each other. Main statement: for such objects, the empty
one is neutral, merging the same again changes nothing, and merging is associative where an object
never meets something else. -/

namespace ExportBundle

namespace Json.Value

def isObject : Value → Bool
  | .obj _ => true
  | _ => false

mutual

/-- How many objects stand in each other, each as a member of the one before it. -/
def objectDepth : Value → Nat
  | .obj members => objectDepthOfMembers members + 1
  | _ => 0

def objectDepthOfMembers : List (String × Value) → Nat
  | [] => 0
  | (_, v) :: r => max v.objectDepth (objectDepthOfMembers r)

end

theorem objectDepth_le_iff {members : List (String × Value)} {n : Nat} :
    (obj members).objectDepth ≤ n ↔ 1 ≤ n ∧ ∀ m ∈ members, m.2.objectDepth + 1 ≤ n := by
  rw [objectDepth]
  induction members with
  | nil => simp [objectDepthOfMembers]
  | cons m r ih =>
    rw [objectDepthOfMembers, ← Nat.add_max_add_right, Nat.max_le, ih, List.forall_mem_cons]
    exact and_left_comm

theorem objectDepth_lt_of_mem {members : List (String × Value)} {m : String × Value}
    (h : m ∈ members) : m.2.objectDepth < (obj members).objectDepth :=
  (objectDepth_le_iff.1 Nat.le.refl).2 m h

def at? : Value → List String → Option Value
  | v, [] => some v
  | .obj members, k :: r => (OrderedMap.get? members k).bind fun v => v.at? r
  | _, _ :: _ => none

/-- At no path has one of the documents an object and the other one something else. -/
def Compatible (v w : Value) : Prop :=
  ∀ path x y, v.at? path = some x → w.at? path = some y → x.isObject = y.isObject

variable {members : OrderedMap String Value}

theorem HasDistinctNames.nodup (h : (obj members).HasDistinctNames) : members.keys.Nodup := by
  cases h with
  | obj own _ => exact own

theorem HasDistinctNames.get? (h : (obj members).HasDistinctNames) {k : String} {v : Value}
    (hv : members.get? k = some v) : v.HasDistinctNames := by
  cases h with
  | obj own hmembers => exact hmembers (k, v) ((OrderedMap.get?_eq_some_iff own).1 hv)

theorem Compatible.get? {members' : OrderedMap String Value}
    (h : Compatible (obj members) (obj members')) {k : String} {v w : Value}
    (hv : members.get? k = some v) (hw : members'.get? k = some w) : Compatible v w := by
  intro path x y hx hy
  refine h (k :: path) x y ?_ ?_
  · rw [at?, hv]
    exact hx
  · rw [at?, hw]
    exact hy

theorem eq_obj_of_at? {v : Value} {path : List String} (h : v.at? path = some (obj members)) :
    ∃ own, v = obj own := by
  cases v with
  | obj own => exact ⟨own, rfl⟩
  | _ => cases path <;> cases h

theorem Compatible.isObject_eq {v w : Value} (h : Compatible v w) : v.isObject = w.isObject :=
  h [] v w rfl rfl

theorem compatible_of_not_isObject {v w : Value} (hv : v.isObject = false)
    (hw : w.isObject = false) : Compatible v w := by
  intro path x y hx hy
  cases path with
  | nil =>
    cases hx
    cases hy
    rw [hv, hw]
  | cons k r => cases v with
    | obj members => cases hv
    | _ => cases hx

theorem compatible_obj {members' : OrderedMap String Value}
    (h : ∀ m ∈ members, ∀ m' ∈ members', m.1 = m'.1 → Compatible m.2 m'.2) :
    Compatible (obj members) (obj members') := by
  intro path x y hx hy
  cases path with
  | nil =>
    cases hx
    cases hy
    rfl
  | cons k r =>
    obtain ⟨v, hv, hrest⟩ := Option.bind_eq_some_iff.1 hx
    obtain ⟨w, hw, hrest'⟩ := Option.bind_eq_some_iff.1 hy
    obtain ⟨m, hm, rfl⟩ := Option.map_eq_some_iff.1 hv
    obtain ⟨m', hm', rfl⟩ := Option.map_eq_some_iff.1 hw
    have hkey := List.find?_some hm
    have hkey' := List.find?_some hm'
    have hname : m.1 = m'.1 := (eq_of_beq hkey).trans (eq_of_beq hkey').symm
    exact h m (List.mem_of_find?_eq_some hm) m' (List.mem_of_find?_eq_some hm') hname r x y hrest
      hrest'

end Json.Value

namespace Config

open Json (Value)
open Json.Value (isObject at? Compatible eq_obj_of_at? compatible_obj compatible_of_not_isObject
  objectDepth_le_iff objectDepth_lt_of_mem)

variable {base later : OrderedMap String Value}

theorem overlay_none (v : Value) : overlay none v = v := by
  cases v <;> rfl

theorem overlay_of_not_isObject (old : Option Value) {v : Value} (h : v.isObject = false) :
    overlay old v = v := by
  cases v with
  | obj members => cases h
  | _ => rfl

theorem overlay_some_of_not_isObject {old : Value} (h : old.isObject = false) (v : Value) :
    overlay (some old) v = v := by
  cases v with
  | obj members => cases old with
    | obj base => cases h
    | _ => rfl
  | _ => rfl

theorem overlay_objects (base later : OrderedMap String Value) :
    overlay (some (.obj base)) (.obj later) = .obj (mergeMembers base later) := rfl

theorem keys_mergeMembers (h : later.keys.Nodup) :
    (mergeMembers base later).keys = base.keys ++ later.keys.filter fun k => k ∉ base.keys := by
  induction later generalizing base with
  | nil => simp [mergeMembers, OrderedMap.keys]
  | cons m r ih =>
    obtain ⟨k, v⟩ := m
    obtain ⟨hk, hr⟩ := List.nodup_cons.1 (show (k :: OrderedMap.keys r).Nodup from h)
    have hkeys : OrderedMap.keys ((k, v) :: r) = k :: OrderedMap.keys r := rfl
    rw [mergeMembers, ih hr, hkeys, OrderedMap.keys_put]
    by_cases hmem : k ∈ base.keys
    · have hknown : base.contains k = true := (OrderedMap.contains_iff_mem_keys base k).2 hmem
      simp [hknown, hmem]
    · have hnew : ¬ base.contains k = true := mt (OrderedMap.contains_iff_mem_keys base k).1 hmem
      have hrest : ∀ k' ∈ OrderedMap.keys r, k' ≠ k := fun k' hk' he => hk (he ▸ hk')
      rw [if_neg hnew, List.filter_cons_of_pos (by simpa using hmem), List.append_assoc,
        List.singleton_append]
      congr 2
      refine List.filter_congr fun k' hk' => ?_
      simp [hrest k' hk']

theorem get?_mergeMembers (h : later.keys.Nodup) (k : String) :
    (mergeMembers base later).get? k =
      match later.get? k with
      | some v => some (overlay (base.get? k) v)
      | none => base.get? k := by
  induction later generalizing base with
  | nil => rfl
  | cons m r ih =>
    obtain ⟨k', v⟩ := m
    obtain ⟨hk, hr⟩ := List.nodup_cons.1 (show (k' :: OrderedMap.keys r).Nodup from h)
    rw [mergeMembers, ih hr, OrderedMap.get?_put]
    by_cases he : k' = k
    · subst he
      have hnone : OrderedMap.get? r k' = none := by
        by_contra hsome
        obtain ⟨w, hw⟩ := Option.ne_none_iff_exists'.1 hsome
        exact hk (OrderedMap.mem_keys_iff.2 ⟨w, hw⟩)
      have hfirst : OrderedMap.get? ((k', v) :: r) k' = some v := by simp [OrderedMap.get?]
      simp [hnone, hfirst]
    · have hrest : OrderedMap.get? ((k', v) :: r) k = OrderedMap.get? r k := by
        simp [OrderedMap.get?, he]
      simp [hrest, he]

theorem nodup_keys_mergeMembers (hbase : base.keys.Nodup) (hlater : later.keys.Nodup) :
    (mergeMembers base later).keys.Nodup := by
  rw [keys_mergeMembers hlater, List.nodup_append]
  refine ⟨hbase, hlater.filter _, fun k hk k' hk' he => ?_⟩
  have hnew := (List.mem_filter.1 hk').2
  simp [← he, hk] at hnew

/-! The laws of merging -/

theorem mergeMembers_nil_left (h : later.keys.Nodup) : mergeMembers [] later = later := by
  refine OrderedMap.eq_of_get?_eq (nodup_keys_mergeMembers List.nodup_nil h) ?_ fun k => ?_
  · rw [keys_mergeMembers h]
    simp [OrderedMap.keys]
  · rw [get?_mergeMembers h]
    cases later.get? k <;> simp [overlay_none]

theorem mergeMembers_self_of (h : base.keys.Nodup)
    (hself : ∀ k v, base.get? k = some v → overlay (some v) v = v) :
    mergeMembers base base = base := by
  refine OrderedMap.eq_of_get?_eq (nodup_keys_mergeMembers h h) ?_ fun k => ?_
  · rw [keys_mergeMembers h]
    simp
  · rw [get?_mergeMembers h]
    cases hk : base.get? k with
    | none => rfl
    | some v => exact congrArg some (hself k v hk)

theorem overlay_self {v : Value} (h : v.HasDistinctNames) : overlay (some v) v = v := by
  induction v using Value.nestedInduction with
  | obj members ih =>
    rw [overlay_objects, mergeMembers_self_of h.nodup fun k v hk => ?_]
    exact ih (k, v) ((OrderedMap.get?_eq_some_iff h.nodup).1 hk) (h.get? hk)
  | _ => rfl

theorem mergeMembers_again_of (hbase : base.keys.Nodup) (hlater : later.keys.Nodup)
    (hagain : ∀ k v, later.get? k = some v →
      overlay (some (overlay (base.get? k) v)) v = overlay (base.get? k) v) :
    mergeMembers (mergeMembers base later) later = mergeMembers base later := by
  have hmerged := nodup_keys_mergeMembers hbase hlater
  refine OrderedMap.eq_of_get?_eq (nodup_keys_mergeMembers hmerged hlater) ?_ fun k => ?_
  · have hnone : later.keys.filter (fun k => k ∉ (mergeMembers base later).keys) = [] := by
      refine List.filter_eq_nil_iff.2 fun k hk => ?_
      by_cases hmem : k ∈ base.keys <;> simp [keys_mergeMembers hlater, hmem, hk]
    rw [keys_mergeMembers hlater, hnone, List.append_nil]
  · rw [get?_mergeMembers hlater, get?_mergeMembers hlater]
    cases hk : later.get? k with
    | none => rfl
    | some v => exact congrArg some (hagain k v hk)

theorem overlay_again {v : Value} (h : v.HasDistinctNames) {old : Option Value}
    (hold : ∀ u, old = some u → u.HasDistinctNames) :
    overlay (some (overlay old v)) v = overlay old v := by
  induction v using Value.nestedInduction generalizing old with
  | obj later ih =>
    by_cases hobject : ∃ base, old = some (.obj base)
    · obtain ⟨base, rfl⟩ := hobject
      have hbase := hold _ rfl
      rw [overlay_objects, overlay_objects,
        mergeMembers_again_of hbase.nodup h.nodup fun k v hk => ?_]
      exact ih (k, v) ((OrderedMap.get?_eq_some_iff h.nodup).1 hk) (h.get? hk)
        fun u hu => hbase.get? hu
    · have hplain : overlay old (.obj later) = .obj later := by
        cases old with
        | none => rfl
        | some u => cases u with
          | obj base => exact absurd ⟨base, rfl⟩ hobject
          | _ => rfl
      rw [hplain, overlay_self h]
  | _ => rfl

theorem mergeMembers_assoc_of {a b c : OrderedMap String Value} (ha : a.keys.Nodup)
    (hb : b.keys.Nodup) (hc : c.keys.Nodup)
    (hassoc : ∀ k y z, b.get? k = some y → c.get? k = some z →
      overlay (some (overlay (a.get? k) y)) z = overlay (a.get? k) (overlay (some y) z)) :
    mergeMembers (mergeMembers a b) c = mergeMembers a (mergeMembers b c) := by
  have hab := nodup_keys_mergeMembers ha hb
  have hbc := nodup_keys_mergeMembers hb hc
  refine OrderedMap.eq_of_get?_eq (nodup_keys_mergeMembers hab hc) ?_ fun k => ?_
  · rw [keys_mergeMembers hc, keys_mergeMembers hbc, keys_mergeMembers hb, keys_mergeMembers hc,
      List.filter_append, List.append_assoc, List.filter_filter]
    congr 2
    refine List.filter_congr fun k _ => ?_
    by_cases hka : k ∈ a.keys <;> by_cases hkb : k ∈ b.keys <;> simp [hka, hkb]
  · rw [get?_mergeMembers hc, get?_mergeMembers hbc, get?_mergeMembers hb, get?_mergeMembers hc]
    cases hz : c.get? k with
    | none => rfl
    | some z => cases hy : b.get? k with
      | none => simp [overlay_none]
      | some y => exact congrArg some (hassoc k y z hy hz)

theorem overlay_assoc {x : Option Value} {y z : Value} (hx : ∀ u, x = some u → u.HasDistinctNames)
    (hy : y.HasDistinctNames) (hz : z.HasDistinctNames) (hxy : ∀ u, x = some u → Compatible u y)
    (hyz : Compatible y z) (hxz : ∀ u, x = some u → Compatible u z) :
    overlay (some (overlay x y)) z = overlay x (overlay (some y) z) := by
  induction z using Value.nestedInduction generalizing x y with
  | obj c ih =>
    obtain ⟨b, rfl⟩ : ∃ b, y = .obj b := by
      have hobject := hyz.isObject_eq
      cases y with
      | obj b => exact ⟨b, rfl⟩
      | _ => cases hobject
    cases x with
    | none => rw [overlay_none, overlay_none]
    | some u =>
      obtain ⟨a, rfl⟩ : ∃ a, u = .obj a := by
        have hobject := (hxy u rfl).isObject_eq
        cases u with
        | obj a => exact ⟨a, rfl⟩
        | _ => cases hobject
      have ha := hx _ rfl
      rw [overlay_objects, overlay_objects, overlay_objects, overlay_objects,
        mergeMembers_assoc_of ha.nodup hy.nodup hz.nodup fun k v w hv hw => ?_]
      exact ih (k, w) ((OrderedMap.get?_eq_some_iff hz.nodup).1 hw) (fun u hu => ha.get? hu)
        (hy.get? hv) (hz.get? hw) (fun u hu => (hxy _ rfl).get? hu hv) (hyz.get? hv hw)
        fun u hu => (hxz _ rfl).get? hu hw
  | _ => rfl

theorem at?_mergeMembers {a b : OrderedMap String Value} (hb : (Value.obj b).HasDistinctNames)
    {path : List String} {members members' : OrderedMap String Value}
    (h : (Value.obj a).at? path = some (.obj members))
    (h' : (Value.obj b).at? path = some (.obj members')) :
    (Value.obj (mergeMembers a b)).at? path = some (.obj (mergeMembers members members')) ∧
      (Value.obj members').HasDistinctNames := by
  induction path generalizing a b with
  | nil =>
    cases h
    cases h'
    exact ⟨rfl, hb⟩
  | cons k r ih =>
    obtain ⟨v, hv, hrest⟩ := Option.bind_eq_some_iff.1 h
    obtain ⟨w, hw, hrest'⟩ := Option.bind_eq_some_iff.1 h'
    obtain ⟨inner, rfl⟩ := eq_obj_of_at? hrest
    obtain ⟨inner', rfl⟩ := eq_obj_of_at? hrest'
    obtain ⟨hat, hmembers⟩ := ih (hb.get? hw) hrest hrest'
    refine ⟨?_, hmembers⟩
    rw [at?, get?_mergeMembers hb.nodup, hv, hw]
    exact hat

theorem mergeMembers_laws {a b c : OrderedMap String Value} (ha : (Value.obj a).HasDistinctNames)
    (hb : (Value.obj b).HasDistinctNames) (hc : (Value.obj c).HasDistinctNames) :
    mergeMembers a [] = a ∧ mergeMembers [] a = a ∧ mergeMembers a a = a ∧
      mergeMembers (mergeMembers a b) b = mergeMembers a b ∧
      (∀ path (members members' : OrderedMap String Value),
        (Value.obj a).at? path = some (.obj members) →
        (Value.obj b).at? path = some (.obj members') →
        ∃ merged : OrderedMap String Value,
          (Value.obj (mergeMembers a b)).at? path = some (.obj merged) ∧
          merged.keys = members.keys ++ members'.keys.filter fun k => k ∉ members.keys) ∧
      (Compatible (.obj a) (.obj b) → Compatible (.obj b) (.obj c) → Compatible (.obj a) (.obj c) →
        mergeMembers (mergeMembers a b) c = mergeMembers a (mergeMembers b c)) := by
  refine ⟨rfl, mergeMembers_nil_left ha.nodup, ?_, ?_, fun path members members' h h' => ?_,
    fun hab hbc hac => ?_⟩
  · have hself := overlay_self ha
    rwa [overlay_objects, Value.obj.injEq] at hself
  · have hagain : overlay (some (overlay (some (.obj a)) (.obj b))) (.obj b) = _ :=
      overlay_again hb fun u hu => Option.some.inj hu ▸ ha
    rwa [overlay_objects, overlay_objects, Value.obj.injEq] at hagain
  · obtain ⟨hat, hnames⟩ := at?_mergeMembers hb h h'
    exact ⟨_, hat, keys_mergeMembers hnames.nodup⟩
  · have hassoc := overlay_assoc (x := some (.obj a)) (fun u hu => Option.some.inj hu ▸ ha) hb hc
      (fun u hu => Option.some.inj hu ▸ hab) hbc fun u hu => Option.some.inj hu ▸ hac
    rwa [overlay_objects, overlay_objects, overlay_objects, overlay_objects,
      Value.obj.injEq] at hassoc

/-! How deep merging goes -/

theorem mergeDepth_le_iff {n : Nat} : mergeDepth base later ≤ n ↔
    1 ≤ n ∧ ∀ m ∈ later, overlayDepth (base.get? m.1) m.2 + 1 ≤ n := by
  induction later with
  | nil => simp [mergeDepth]
  | cons m r ih =>
    rw [mergeDepth, Nat.max_le, ih, List.forall_mem_cons]
    exact and_left_comm

theorem overlayDepth_le (old : Option Value) (v : Value) : overlayDepth old v ≤ v.objectDepth := by
  induction v using Value.nestedInduction generalizing old with
  | obj later ih =>
    by_cases hobject : ∃ base, old = some (.obj base)
    · obtain ⟨base, rfl⟩ := hobject
      refine mergeDepth_le_iff.2 ⟨Nat.le_add_left _ _, fun m hm => ?_⟩
      have hle := ih m hm (OrderedMap.get? base m.1)
      have hlt := objectDepth_lt_of_mem hm
      omega
    · cases old with
      | none => exact Nat.zero_le _
      | some u => cases u with
        | obj base => exact absurd ⟨base, rfl⟩ hobject
        | _ => exact Nat.zero_le _
  | _ => exact Nat.zero_le _

theorem overlayDepth_le_old (old v : Value) : overlayDepth (some old) v ≤ old.objectDepth := by
  induction v using Value.nestedInduction generalizing old with
  | obj later ih =>
    cases old with
    | obj base =>
      refine mergeDepth_le_iff.2 ⟨Nat.le_add_left _ _, fun m hm => ?_⟩
      cases hold : OrderedMap.get? base m.1 with
      | none =>
        have hzero : overlayDepth none m.2 = 0 := by cases m.2 <;> rfl
        rw [hzero]
        exact Nat.le_add_left _ _
      | some u =>
        have hle := ih m hm u
        have hlt := objectDepth_lt_of_mem (OrderedMap.mem_of_get? hold)
        dsimp only at hlt
        omega
    | _ => exact Nat.zero_le _
  | _ => exact Nat.zero_le _

theorem forall_mem_mergeMembers (good : Value → Prop) (hbase : ∀ m ∈ base, good m.2)
    (hlater : ∀ m ∈ later, ∀ old, (∀ u, old = some u → good u) → good (overlay old m.2)) :
    ∀ m ∈ mergeMembers base later, good m.2 := by
  induction later generalizing base with
  | nil => exact hbase
  | cons m r ih =>
    obtain ⟨hm, hr⟩ := List.forall_mem_cons.1 hlater
    refine ih (fun e he => ?_) hr
    rcases OrderedMap.of_mem_put he with hvalue | he
    · rw [hvalue]
      exact hm _ fun u hu => hbase _ (OrderedMap.mem_of_get? hu)
    · exact hbase e he

theorem objectDepth_overlay_le {n : Nat} {old : Option Value} {v : Value}
    (hold : ∀ u, old = some u → u.objectDepth ≤ n) (hv : v.objectDepth ≤ n) :
    (overlay old v).objectDepth ≤ n := by
  induction v using Value.nestedInduction generalizing old n with
  | obj later ih =>
    by_cases hobject : ∃ base, old = some (.obj base)
    · obtain ⟨base, rfl⟩ := hobject
      obtain ⟨hone, hlater⟩ := objectDepth_le_iff.1 hv
      obtain ⟨n, rfl⟩ := Nat.exists_eq_add_of_le' hone
      have hbase := (objectDepth_le_iff.1 (hold _ rfl)).2
      refine objectDepth_le_iff.2 ⟨hone, forall_mem_mergeMembers
        (fun u => u.objectDepth + 1 ≤ n + 1) hbase fun m hm old hold => ?_⟩
      have hless : ∀ u, old = some u → u.objectDepth ≤ n :=
        fun u hu => Nat.le_of_add_le_add_right (hold u hu)
      exact Nat.add_le_add_right (ih m hm hless (Nat.le_of_add_le_add_right (hlater m hm))) 1
    · cases old with
      | none => exact hv
      | some u => cases u with
        | obj base => exact absurd ⟨base, rfl⟩ hobject
        | _ => exact hv
  | _ => exact hv

theorem objectDepth_mergeMembers_le {n : Nat} (hbase : (Value.obj base).objectDepth ≤ n)
    (hlater : (Value.obj later).objectDepth ≤ n) :
    (Value.obj (mergeMembers base later)).objectDepth ≤ n := by
  have hoverlay : (overlay (some (.obj base)) (.obj later)).objectDepth ≤ n :=
    objectDepth_overlay_le (fun u hu => Option.some.inj hu ▸ hbase) hlater
  rwa [overlay_objects] at hoverlay

section Bounded

variable {depths : Depths}

theorem merge_eq_ok (h : (Value.obj base).objectDepth ≤ Depths.merging ∨
    (Value.obj later).objectDepth ≤ Depths.merging) :
    merge base later = .ok (mergeMembers base later) := by
  have hbase : mergeDepth base later ≤ (Value.obj base).objectDepth :=
    overlayDepth_le_old (.obj base) (.obj later)
  have hlater : mergeDepth base later ≤ (Value.obj later).objectDepth :=
    overlayDepth_le (some (.obj base)) (.obj later)
  rw [merge, if_neg (by omega)]

theorem merge_of_deep (h : Depths.merging < mergeDepth base later) :
    merge base later = .error .tooDeep := if_pos h

theorem merge_cases (base later : OrderedMap String Value) :
    merge base later = .error .tooDeep ∨ merge base later = .ok (mergeMembers base later) := by
  rw [merge]
  split
  · exact .inl rfl
  · exact .inr rfl

/-- The laws of merging, for objects that have no name twice. The empty object is neutral on both
sides. An object merged with itself is itself, and merging the same once more changes nothing, if the
object does not stand too deep in itself. At every path that has an object on both sides the names of
the base stand first, in their order, and then the new ones in theirs. Where an object never meets
something else, merging is associative, if the later two objects do not stand too deep. -/
theorem merge_laws {a b c : OrderedMap String Value} (ha : (Value.obj a).HasDistinctNames)
    (hb : (Value.obj b).HasDistinctNames) (hc : (Value.obj c).HasDistinctNames)
    (hroom : 1 ≤ Depths.merging) :
    merge a [] = .ok a ∧ merge [] a = .ok a ∧
      ((Value.obj a).objectDepth ≤ Depths.merging → merge a a = .ok a) ∧
      ((Value.obj b).objectDepth ≤ Depths.merging →
        ∃ ab, merge a b = .ok ab ∧ merge ab b = .ok ab) ∧
      (∀ ab, merge a b = .ok ab → ∀ path (members members' : OrderedMap String Value),
        (Value.obj a).at? path = some (.obj members) →
        (Value.obj b).at? path = some (.obj members') →
        ∃ merged : OrderedMap String Value, (Value.obj ab).at? path = some (.obj merged) ∧
          merged.keys = members.keys ++ members'.keys.filter fun k => k ∉ members.keys) ∧
      ((Value.obj b).objectDepth ≤ Depths.merging → (Value.obj c).objectDepth ≤ Depths.merging →
        Compatible (.obj a) (.obj b) → Compatible (.obj b) (.obj c) →
        Compatible (.obj a) (.obj c) → ∃ ab bc abc, merge a b = .ok ab ∧ merge b c = .ok bc ∧
          merge ab c = .ok abc ∧ merge a bc = .ok abc) := by
  obtain ⟨hright, hleft, hself, hagain, hkeys, hassoc⟩ := mergeMembers_laws ha hb hc
  have hempty : (Value.obj []).objectDepth ≤ Depths.merging := hroom
  refine ⟨?_, ?_, fun hdeep => ?_, fun hdeep => ⟨mergeMembers a b, merge_eq_ok (.inr hdeep), ?_⟩,
    fun ab hab => ?_, fun hdeep hdeep' hab hbc hac => ?_⟩
  · rw [merge_eq_ok (.inr hempty), hright]
  · rw [merge_eq_ok (.inl hempty), hleft]
  · rw [merge_eq_ok (.inl hdeep), hself]
  · rw [merge_eq_ok (.inr hdeep), hagain]
  · rcases merge_cases a b with herror | hok
    · cases herror.symm.trans hab
    · exact Except.ok.inj (hok.symm.trans hab) ▸ hkeys
  · refine ⟨mergeMembers a b, mergeMembers b c, mergeMembers (mergeMembers a b) c,
      merge_eq_ok (.inr hdeep), merge_eq_ok (.inr hdeep'), merge_eq_ok (.inr hdeep'), ?_⟩
    rw [merge_eq_ok (.inr (objectDepth_mergeMembers_le hdeep hdeep')), hassoc hab hbc hac]

end Bounded

/-- Something else between two objects makes a difference. -/
example :
    mergeMembers (mergeMembers [("k", .obj [("x", .int 1)])] [("k", .null)]) [("k", .obj [])] =
        [("k", .obj [])] ∧
      mergeMembers [("k", .obj [("x", .int 1)])] (mergeMembers [("k", .null)] [("k", .obj [])]) =
        [("k", .obj [("x", .int 1)])] := ⟨rfl, rfl⟩

def lower : OrderedMap String Value := [("out", .str "dist"), ("tools", .obj [("npm", .int 1)])]

def middle : OrderedMap String Value :=
  [("tools", .obj [("npx", .int 2), ("npm", .int 3)]), ("minify", .bool false)]

def upper : OrderedMap String Value :=
  [("minify", .bool true), ("tools", .obj [("npx", .null)])]

theorem merge_laws_layers :
    let _ : Depths := .ofCalls 900
    (Value.obj lower).HasDistinctNames ∧ (Value.obj middle).HasDistinctNames ∧
      (Value.obj upper).HasDistinctNames ∧ Compatible (.obj lower) (.obj middle) ∧
      Compatible (.obj middle) (.obj upper) ∧ Compatible (.obj lower) (.obj upper) ∧
      merge [] lower = .ok lower ∧ merge lower lower = .ok lower ∧
      ∃ ab bc abc, merge lower middle = .ok ab ∧ merge middle upper = .ok bc ∧
        merge ab middle = .ok ab ∧
        (∃ merged : OrderedMap String Value, (Value.obj ab).at? ["tools"] = some (.obj merged) ∧
          merged.keys = ["npm", "npx"]) ∧
        merge ab upper = .ok abc ∧ merge lower bc = .ok abc := by
  intro _
  have hlower : (Value.obj lower).HasDistinctNames :=
    .obj (by decide) (List.forall_mem_cons.2 ⟨.str _, List.forall_mem_singleton.2
      (.obj (by decide) (List.forall_mem_singleton.2 (.int _)))⟩)
  have hmiddle : (Value.obj middle).HasDistinctNames :=
    .obj (by decide) (List.forall_mem_cons.2 ⟨.obj (by decide) (List.forall_mem_cons.2
      ⟨.int _, List.forall_mem_singleton.2 (.int _)⟩), List.forall_mem_singleton.2 (.bool _)⟩)
  have hupper : (Value.obj upper).HasDistinctNames :=
    .obj (by decide) (List.forall_mem_cons.2 ⟨.bool _, List.forall_mem_singleton.2
      (.obj (by decide) (List.forall_mem_singleton.2 .null))⟩)
  have hlm : Compatible (.obj lower) (.obj middle) := by
    have hnpm : Compatible (.int 1) (.int 3) := compatible_of_not_isObject rfl rfl
    have htools : Compatible (.obj [("npm", .int 1)]) (.obj [("npx", .int 2), ("npm", .int 3)]) :=
      compatible_obj (by simp [hnpm])
    exact compatible_obj (by simp [lower, middle, htools])
  have hmu : Compatible (.obj middle) (.obj upper) := by
    have hnpx : Compatible (.int 2) .null := compatible_of_not_isObject rfl rfl
    have htools : Compatible (.obj [("npx", .int 2), ("npm", .int 3)]) (.obj [("npx", .null)]) :=
      compatible_obj (by simp [hnpx])
    have hminify : Compatible (.bool false) (.bool true) := compatible_of_not_isObject rfl rfl
    exact compatible_obj (by simp [middle, upper, htools, hminify])
  have hlu : Compatible (.obj lower) (.obj upper) := by
    have htools : Compatible (.obj [("npm", .int 1)]) (.obj [("npx", .null)]) :=
      compatible_obj (by simp)
    exact compatible_obj (by simp [lower, upper, htools])
  have hroom : 1 ≤ Depths.merging := by decide
  have hdeep : (Value.obj lower).objectDepth ≤ Depths.merging := by decide
  have hdeep' : (Value.obj middle).objectDepth ≤ Depths.merging := by decide
  have hdeep'' : (Value.obj upper).objectDepth ≤ Depths.merging := by decide
  obtain ⟨_, hempty, hself, hagain, hkeys, hassoc⟩ :=
    merge_laws hlower hmiddle hupper hroom
  obtain ⟨ab, bc, abc, hab, hbc, hleft, hright⟩ := hassoc hdeep' hdeep'' hlm hmu hlu
  obtain ⟨ab', hab', hsame⟩ := hagain hdeep'
  obtain rfl := Except.ok.inj (hab.symm.trans hab')
  exact ⟨hlower, hmiddle, hupper, hlm, hmu, hlu, hempty, hself hdeep, ab, bc, abc, hab, hbc, hsame,
    hkeys ab hab ["tools"] _ _ rfl rfl, hleft, hright⟩

/-! Objects that are too deep -/

/-- The empty object in some others, each the only member of the next. -/
def nested : Nat → OrderedMap String Value
  | 0 => []
  | n + 1 => [("x", .obj (nested n))]

theorem mergeDepth_nested (n : Nat) : mergeDepth (nested n) (nested n) = n + 1 := by
  induction n with
  | zero => rfl
  | succ n ih =>
    change max (mergeDepth (nested n) (nested n) + 1) 1 = _
    rw [ih]
    exact Nat.max_eq_left (Nat.le_add_left _ _)

theorem nested_hasDistinctNames (n : Nat) : (Value.obj (nested n)).HasDistinctNames := by
  induction n with
  | zero => exact .obj List.nodup_nil nofun
  | succ n ih => exact .obj (List.nodup_singleton _) (List.forall_mem_singleton.2 ih)

/-- A thousand objects in one more cannot be merged with themselves where there is room for a
thousand calls. -/
theorem nested_not_merged : (Value.obj (nested 1000)).HasDistinctNames ∧
    ∀ depths : Depths, depths.merging ≤ 1000 →
      merge (nested 1000) (nested 1000) = .error .tooDeep := by
  refine ⟨nested_hasDistinctNames 1000, fun depths hroom => ?_⟩
  have hdepth := mergeDepth_nested 1000
  exact merge_of_deep (by omega)

end Config

end ExportBundle
