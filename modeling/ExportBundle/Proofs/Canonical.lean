import ExportBundle.Canonical
import ExportBundle.Proofs.Json.Spelling
import Mathlib.Data.List.Nodup

/-! What a canonical text says. The document that stands for a value has no fractions, so it can be
read from its text. Main statements: values with one canonical text stand for one document, and the
members of two objects that stand for one document do so in turn. -/

namespace ExportBundle.Canonical

open Json (Value Exact)

theorem exists_of_bind_eq_ok {ε α β : Type} {x : Except ε α} {f : α → Except ε β} {b : β}
    (h : x >>= f = .ok b) : ∃ a, x = .ok a ∧ f a = .ok b := by
  cases x with
  | error e => cases h
  | ok a => exact ⟨a, rfl, h⟩

theorem forall₂_of_mapM {α β ε : Type} {f : α → Except ε β} {l : List α} {bs : List β}
    (h : l.mapM f = .ok bs) : List.Forall₂ (fun a b => f a = .ok b) l bs := by
  induction l generalizing bs with
  | nil =>
    cases h
    exact .nil
  | cons a r ih =>
    rw [List.mapM_cons] at h
    obtain ⟨b, hb, h⟩ := exists_of_bind_eq_ok h
    obtain ⟨bs', hbs', h⟩ := exists_of_bind_eq_ok h
    cases h
    exact .cons hb (ih hbs')

theorem exists_of_forall₂ {α β : Type} {R : α → β → Prop} {l : List α} {l' : List β}
    (h : List.Forall₂ R l l') {a : α} (ha : a ∈ l) : ∃ b ∈ l', R a b := by
  induction h with
  | nil => cases ha
  | cons hab _ ih =>
    rcases List.mem_cons.1 ha with rfl | ha
    · exact ⟨_, by simp, hab⟩
    · obtain ⟨b, hb, hr⟩ := ih ha
      exact ⟨b, List.mem_cons_of_mem _ hb, hr⟩

theorem sortEntries_eq_ok {entries : List (String × Except Error Value)} {v : Value}
    (h : sortEntries entries = .ok v) :
    ∃ sorted, v = .obj (OrderedMap.ofEntries sorted) ∧
      List.Forall₂ (fun e m => e.1 = m.1 ∧ e.2 = .ok m.2)
        (Sorting.sort (fun a b => Text.inOrder a.1 b.1) entries) sorted := by
  obtain ⟨sorted, hsorted, h⟩ := exists_of_bind_eq_ok h
  cases h
  refine ⟨sorted, rfl, (forall₂_of_mapM hsorted).imp fun e m hm => ?_⟩
  obtain ⟨x, hx, hm⟩ := exists_of_bind_eq_ok hm
  cases hm
  exact ⟨rfl, hx⟩

theorem exact_int (n : Int) : Exact false (.int n) := .int fun h => absurd h Bool.false_ne_true

theorem exact_ofStrings (l : List String) : Exact false (Value.ofStrings l) := by
  refine .arr fun v hv => ?_
  obtain ⟨s, _, rfl⟩ := List.mem_map.1 hv
  exact .str s

theorem exact_sortEntries {entries : List (String × Except Error Value)} {v : Value}
    (h : sortEntries entries = .ok v)
    (hentries : ∀ e ∈ entries, ∀ x, e.2 = .ok x → Exact false x) : Exact false v := by
  obtain ⟨sorted, rfl, hsorted⟩ := sortEntries_eq_ok h
  refine .obj (OrderedMap.nodup_keys_ofEntries sorted) fun m hm => ?_
  obtain ⟨before, after, hsplit, _⟩ := OrderedMap.mem_ofEntries.1 hm
  have hmem : m ∈ sorted := by simp [hsplit]
  obtain ⟨e, he, _, hx⟩ := exists_of_forall₂ hsorted.flip hmem
  exact hentries e ((Sorting.mem_sort _).1 he) m.2 hx

theorem exact_sortItems {items sorted : List Value} (h : sortItems items = .ok sorted)
    (hitems : ∀ v ∈ items, Exact false v) : ∀ v ∈ sorted, Exact false v := by
  unfold sortItems at h
  split at h
  · cases h
    exact fun v hv => hitems v ((Sorting.mem_sort _).1 hv)
  · cases h

theorem exact_version (v : Version) :
    Exact false (.obj [("build", Value.ofStrings v.build), ("major", .int v.major),
      ("minor", .int v.minor), ("patch", .int v.patch),
      ("prerelease", Value.ofStrings v.prerelease)]) := by
  refine .obj ?_ fun m hm => ?_
  · simp [OrderedMap.keys]
  · simp only [List.mem_cons, List.not_mem_nil, or_false] at hm
    rcases hm with rfl | rfl | rfl | rfl | rfl
    · exact exact_ofStrings _
    · exact exact_int _
    · exact exact_int _
    · exact exact_int _
    · exact exact_ofStrings _

mutual

theorem exact_encode : ∀ {d : Datum} {v : Value}, encode d = .ok v → Exact false v
  | .null, _, h => by
    cases h
    exact .null
  | .bool b, _, h => by
    cases h
    exact .bool b
  | .int n, _, h => by
    cases h
    exact exact_int n
  | .float x, _, h => by
    cases h
    exact .str _
  | .str s, _, h => by
    cases h
    exact .str s
  | .path p, _, h => by
    cases h
    exact .str p
  | .list items, _, h => by
    rw [encode] at h
    obtain ⟨vs, hitems, h⟩ := exists_of_bind_eq_ok h
    cases h
    exact .arr (exact_encodeItems hitems)
  | .tuple items, _, h => by
    rw [encode] at h
    obtain ⟨vs, hitems, h⟩ := exists_of_bind_eq_ok h
    cases h
    exact .arr (exact_encodeItems hitems)
  | .set _ items, _, h => by
    rw [encode] at h
    obtain ⟨vs, hitems, h⟩ := exists_of_bind_eq_ok h
    obtain ⟨sorted, hsorted, h⟩ := exists_of_bind_eq_ok h
    cases h
    exact .arr (exact_sortItems hsorted (exact_encodeItems hitems))
  | .dict entries, _, h => by
    rw [encode] at h
    split at h
    · exact exact_sortEntries h exact_encodeEntries
    · cases h
  | .version v, _, h => by
    cases h
    exact exact_version v
  | .record _ fields, _, h => by
    rw [encode] at h
    exact exact_sortEntries h exact_encodeFields
  | .snapshot _, _, h => by cases h
  | .other _ _, _, h => by cases h

theorem exact_encodeItems : ∀ {items : List Datum} {vs : List Value},
    encodeItems items = .ok vs → ∀ v ∈ vs, Exact false v
  | [], _, h => by
    cases h
    simp
  | d :: r, _, h => by
    rw [encodeItems] at h
    obtain ⟨v, hd, h⟩ := exists_of_bind_eq_ok h
    obtain ⟨vs, hr, h⟩ := exists_of_bind_eq_ok h
    cases h
    exact List.forall_mem_cons.2 ⟨exact_encode hd, exact_encodeItems hr⟩

theorem exact_encodeEntries : ∀ {entries : List (Datum × Datum)},
    ∀ e ∈ encodeEntries entries, ∀ x, e.2 = .ok x → Exact false x
  | [], e, he, _, _ => by cases he
  | (k, d) :: r, e, he, x, hx => by
    rw [encodeEntries] at he
    rcases List.mem_cons.1 he with rfl | he
    · exact exact_encode hx
    · exact exact_encodeEntries e he x hx

theorem exact_encodeFields : ∀ {fields : List (String × Datum)},
    ∀ e ∈ encodeFields fields, ∀ x, e.2 = .ok x → Exact false x
  | [], e, he, _, _ => by cases he
  | (k, d) :: r, e, he, x, hx => by
    rw [encodeFields] at he
    rcases List.mem_cons.1 he with rfl | he
    · exact exact_encode hx
    · exact exact_encodeFields e he x hx

end

/-! Values with one text -/

variable {depths : Depths}

theorem text_eq_ok {d : Datum} {t : String} (h : text d = .ok t) :
    ∃ v, encode d = .ok v ∧ t = v.print .compact := by
  obtain ⟨v, hv, h⟩ := exists_of_bind_eq_ok h
  refine ⟨v, hv, ?_⟩
  simp only [bind, Except.bind] at h
  split at h
  · cases h
  · split at h
    · cases h
      rfl
    · cases h

theorem encode_eq_of_text {d d' : Datum} {t : String} (h : text d = .ok t)
    (h' : text d' = .ok t) : encode d = encode d' := by
  obtain ⟨v, hv, hprint⟩ := text_eq_ok h
  obtain ⟨v', hv', hprint'⟩ := text_eq_ok h'
  have hsame : v = v' :=
    (exact_encode hv).eq_of_print_eq (exact_encode hv') (hprint.symm.trans hprint')
  rw [hv, hv', hsame]

theorem fingerprint_eq_ok {d : Datum} {digest : String} (h : fingerprint d = .ok digest) :
    ∃ t, text d = .ok t ∧ digest = fingerprintOf t := by
  obtain ⟨t, ht, h⟩ := exists_of_bind_eq_ok h
  exact ⟨t, ht, (Except.ok.inj h).symm⟩

/-! The members of an object -/

theorem encodeEntries_ofMembers (members : List (String × Value)) :
    encodeEntries (Datum.ofMembers members) =
      members.map fun m => (m.1, encode (.ofJson m.2)) := by
  induction members with
  | nil => rfl
  | cons m r ih =>
    rw [Datum.ofMembers, encodeEntries, ih, List.map_cons]
    rfl

theorem encode_member {members : List (String × Value)} {v : Value}
    (hkeys : (OrderedMap.keys members).Nodup)
    (h : encode (.ofJson (.obj members)) = .ok v) :
    ∃ encoded, v = .obj encoded ∧ (OrderedMap.keys encoded).Nodup ∧
      ∀ m ∈ members, ∃ x, encode (.ofJson m.2) = .ok x ∧ (m.1, x) ∈ encoded := by
  rw [Datum.ofJson, encode] at h
  split at h
  · rw [encodeEntries_ofMembers] at h
    obtain ⟨sorted, rfl, hsorted⟩ := sortEntries_eq_ok h
    have hnames : List.Forall₂ (fun e (m : String × Value) => e.1 = m.1)
        (Sorting.sort (fun a b : String × Except Error Value => Text.inOrder a.1 b.1)
          (members.map fun m => (m.1, encode (.ofJson m.2)))) sorted :=
      hsorted.imp fun _ _ he => he.1
    have hkeys' : (OrderedMap.keys sorted).Nodup := by
      have hsame := List.forall₂_eq_eq_eq ▸
        List.forall₂_map_left_iff.2 (List.forall₂_map_right_iff.2 hnames)
      rw [OrderedMap.keys, ← hsame, ((Sorting.sort_perm _ _).map _).nodup_iff, List.map_map]
      exact hkeys
    rw [OrderedMap.ofEntries_of_nodup hkeys']
    refine ⟨sorted, rfl, hkeys', fun m hm => ?_⟩
    have hmem : (m.1, encode (.ofJson m.2)) ∈
        Sorting.sort (fun a b : String × Except Error Value => Text.inOrder a.1 b.1)
          (members.map fun m => (m.1, encode (.ofJson m.2))) :=
      (Sorting.mem_sort _).2 (List.mem_map.2 ⟨m, hm, rfl⟩)
    obtain ⟨⟨k, x⟩, hx, rfl, hencode⟩ := exists_of_forall₂ hsorted hmem
    exact ⟨x, hencode, hx⟩
  · cases h

theorem encode_member_eq {members members' : List (String × Value)} {v : Value}
    (hkeys : (OrderedMap.keys members).Nodup) (hkeys' : (OrderedMap.keys members').Nodup)
    (h : encode (.ofJson (.obj members)) = .ok v)
    (h' : encode (.ofJson (.obj members')) = .ok v) {k : String} {x x' : Value}
    (hx : (k, x) ∈ members) (hx' : (k, x') ∈ members') :
    encode (.ofJson x) = encode (.ofJson x') := by
  obtain ⟨encoded, rfl, hnodup, hmembers⟩ := encode_member hkeys h
  obtain ⟨encoded', hobj, _, hmembers'⟩ := encode_member hkeys' h'
  obtain rfl : encoded = encoded' := by cases hobj; rfl
  obtain ⟨y, hy, hmem⟩ := hmembers _ hx
  obtain ⟨y', hy', hmem'⟩ := hmembers' _ hx'
  have hsame : y = y' :=
    (Prod.mk.inj (List.inj_on_of_nodup_map hnodup hmem hmem' rfl)).2
  rw [hy, hy', hsame]

end ExportBundle.Canonical
