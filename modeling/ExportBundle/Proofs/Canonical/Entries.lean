import ExportBundle.Proofs.Canonical
import ExportBundle.Proofs.Sorting

/-! The order of the entries of maps. Keys are told apart by their text, and of several entries
whose keys have one text the last one counts. Main statement: the canonical text of a value does
not depend on the order of entries, at any depth, exactly if such entries stand for one document
everywhere in the value. -/

namespace ExportBundle

namespace Datum

/-- The values that stand in a value directly. Keys do not count, since they never change. -/
def parts : Datum → List Datum
  | .list items | .tuple items | .set _ items => items
  | .dict entries => entries.map (·.2)
  | .record _ fields => fields.map (·.2)
  | _ => []

/-- A value is within itself and within all that it stands in. -/
inductive Within : Datum → Datum → Prop
  | self (d : Datum) : Within d d
  | part {d e p : Datum} (hp : p ∈ d.parts) (h : Within e p) : Within e d

@[elab_as_elim]
theorem partInduction {P : Datum → Prop} (h : ∀ d, (∀ p ∈ d.parts, P p) → P d) (d : Datum) : P d :=
  @Datum.rec P (fun items => ∀ p ∈ items, P p) (fun entries => ∀ p ∈ entries.map (·.2), P p)
    (fun fields => ∀ p ∈ fields.map (·.2), P p) (fun e => P e.2) (fun f => P f.2)
    (h _ nofun) (fun _ => h _ nofun) (fun _ => h _ nofun) (fun _ => h _ nofun) (fun _ => h _ nofun)
    (fun _ => h _ nofun) (fun _ ih => h _ ih) (fun _ ih => h _ ih) (fun _ _ ih => h _ ih)
    (fun _ ih => h _ ih) (fun _ => h _ nofun) (fun _ _ ih => h _ ih) (fun _ => h _ nofun)
    (fun _ _ => h _ nofun)
    nofun (fun _ _ hd hr => List.forall_mem_cons.2 ⟨hd, hr⟩)
    nofun (fun _ _ he hr => List.forall_mem_cons.2 ⟨he, hr⟩)
    nofun (fun _ _ hf hr => List.forall_mem_cons.2 ⟨hf, hr⟩)
    (fun _ _ _ hv => hv) (fun _ _ hv => hv) d

/-- A place for one part, with the other parts of the value around it. -/
inductive Place where
  | item (front back : List Datum)
  | cell (front back : List Datum)
  | member (frozen : Bool) (front back : List Datum)
  | value (front back : List (Datum × Datum)) (key : Datum)
  | field (kind : String) (front back : List (String × Datum)) (name : String)

namespace Place

def put (d : Datum) : Place → Datum
  | .item front back => .list (front ++ d :: back)
  | .cell front back => .tuple (front ++ d :: back)
  | .member frozen front back => .set frozen (front ++ d :: back)
  | .value front back key => .dict (front ++ (key, d) :: back)
  | .field kind front back name => .record kind (front ++ (name, d) :: back)

def others : Place → List Datum
  | .item front back | .cell front back | .member _ front back => front ++ back
  | .value front back _ => (front ++ back).map (·.2)
  | .field _ front back _ => (front ++ back).map (·.2)

/-- No later entry or field hides the one in this place. -/
def Shows : Place → Prop
  | .value _ back key => ∀ e ∈ back, e.1.plainText ≠ key.plainText
  | .field _ _ back name => ∀ f ∈ back, f.1 ≠ name
  | _ => True

theorem mem_parts_put {d p : Datum} (place : Place) :
    p ∈ (place.put d).parts ↔ p = d ∨ p ∈ place.others := by
  cases place <;> simp [put, parts, others, or_left_comm]

end Place

/-- The second value is the first with the entries of its maps in another order, at any depth. -/
inductive Rearranged : Datum → Datum → Prop
  | refl (d : Datum) : Rearranged d d
  | trans {d e f : Datum} (h : Rearranged d e) (h' : Rearranged e f) : Rearranged d f
  | entries {entries entries' : List (Datum × Datum)} (h : entries.Perm entries') :
    Rearranged (.dict entries) (.dict entries')
  | inside (place : Place) {d e : Datum} (h : Rearranged d e) :
    Rearranged (place.put d) (place.put e)

def HasDistinctFields (d : Datum) : Prop :=
  ∀ kind fields, Within (.record kind fields) d → (fields.map (·.1)).Nodup

theorem perm_last {α : Type} {a : α} {l : List α} (ha : a ∈ l) : ∃ rest, l.Perm (rest ++ [a]) := by
  obtain ⟨front, back, rfl⟩ := List.append_of_mem ha
  refine ⟨front ++ back, ?_⟩
  rw [List.append_assoc]
  exact (List.perm_append_singleton a back).symm.append_left front

theorem exists_place {d p : Datum} (hfields : d.HasDistinctFields) (hp : p ∈ d.parts) :
    ∃ place : Place, place.Shows ∧ Rearranged d (place.put p) := by
  cases d with
  | list items =>
    obtain ⟨front, back, rfl⟩ := List.append_of_mem hp
    exact ⟨.item front back, trivial, .refl _⟩
  | tuple items =>
    obtain ⟨front, back, rfl⟩ := List.append_of_mem hp
    exact ⟨.cell front back, trivial, .refl _⟩
  | set frozen items =>
    obtain ⟨front, back, rfl⟩ := List.append_of_mem hp
    exact ⟨.member frozen front back, trivial, .refl _⟩
  | dict entries =>
    obtain ⟨⟨key, _⟩, he, rfl⟩ := List.mem_map.1 hp
    obtain ⟨rest, hrest⟩ := perm_last he
    exact ⟨.value rest [] key, nofun, .entries hrest⟩
  | record kind fields =>
    obtain ⟨⟨name, _⟩, hf, rfl⟩ := List.mem_map.1 hp
    obtain ⟨front, back, rfl⟩ := List.append_of_mem hf
    refine ⟨.field kind front back name, fun f hf' hname => ?_, .refl _⟩
    have hnames := hfields _ _ (.self _)
    rw [List.map_append, List.map_cons] at hnames
    refine (List.nodup_cons.1 hnames.of_append_right).1 (List.mem_map.2 ⟨f, hf', hname⟩)
  | _ => cases hp

end Datum

namespace Canonical

open Datum (HasDistinctFields Place Rearranged Within)
open Json (Value)

variable {depths : Depths}

/-- Entries whose keys have one text have values that stand for one document. -/
def KeysAgree (entries : List (Datum × Datum)) : Prop :=
  ∀ e ∈ entries, ∀ e' ∈ entries, e.1.plainText = e'.1.plainText → encode e.2 = encode e'.2

/-! The document of a value with one part picked out -/

theorem encodeItems_eq_mapM (items : List Datum) : encodeItems items = items.mapM encode := by
  induction items with
  | nil => rfl
  | cons d r ih => simp [encodeItems, ih]

theorem encodeEntries_eq_map (entries : List (Datum × Datum)) :
    encodeEntries entries = entries.map fun e => (e.1.plainText, encode e.2) := by
  induction entries with
  | nil => rfl
  | cons e r ih => simp [encodeEntries, ih]

theorem encodeFields_eq_map (fields : List (String × Datum)) :
    encodeFields fields = fields.map fun f => (f.1, encode f.2) := by
  induction fields with
  | nil => rfl
  | cons f r ih => simp [encodeFields, ih]

theorem mapM_middle_eq_ok {α β ε : Type} {f : α → Except ε β} {front back : List α} {a : α}
    {bs : List β} (h : (front ++ a :: back).mapM f = .ok bs) :
    ∃ before b behind, front.mapM f = .ok before ∧ f a = .ok b ∧ back.mapM f = .ok behind ∧
      bs = before ++ b :: behind := by
  rw [List.mapM_append, List.mapM_cons] at h
  obtain ⟨before, hbefore, h⟩ := exists_of_bind_eq_ok h
  obtain ⟨rest, hrest, h⟩ := exists_of_bind_eq_ok h
  obtain ⟨b, hb, hrest⟩ := exists_of_bind_eq_ok hrest
  obtain ⟨behind, hbehind, hrest⟩ := exists_of_bind_eq_ok hrest
  cases hrest
  cases h
  exact ⟨before, b, behind, hbefore, hb, hbehind, rfl⟩

theorem encode_put_congr (place : Place) {d e : Datum} (h : encode d = encode e) :
    encode (place.put d) = encode (place.put e) := by
  cases place with
  | value front back key =>
    have hkeys : ((front ++ (key, d) :: back).all fun e => e.1.fitsDigitLimit) =
        (front ++ (key, e) :: back).all fun e => e.1.fitsDigitLimit := by simp
    rw [Place.put, Place.put, encode, encode, hkeys]
    simp only [encodeEntries_eq_map, List.map_append, List.map_cons, h]
  | _ => simp [Place.put, encode, encodeItems_eq_mapM, encodeFields_eq_map, h]

theorem get?_of_sortEntries {front back : List (String × Except Error Value)} {key : String}
    {x : Except Error Value} {v : Value} (hback : ∀ e ∈ back, e.1 ≠ key)
    (h : sortEntries (front ++ (key, x) :: back) = .ok v) :
    ∃ (members : OrderedMap String Value) (u : Value),
      v = .obj members ∧ x = .ok u ∧ members.get? key = some u := by
  obtain ⟨before, behind, hsort, hbehind⟩ :=
    Sorting.exists_sort_middle (fun a b => Text.inOrder a.1 b.1) front back (key, x)
  obtain ⟨sorted, hsorted, h⟩ := exists_of_bind_eq_ok h
  rw [hsort] at hsorted
  obtain ⟨before', m, behind', -, hm, hlast, rfl⟩ := mapM_middle_eq_ok hsorted
  obtain ⟨u, hu, hm⟩ := exists_of_bind_eq_ok hm
  cases hm
  cases h
  refine ⟨_, u, rfl, hu, ?_⟩
  rw [OrderedMap.get?_eq_some_iff (OrderedMap.nodup_keys_ofEntries _), OrderedMap.mem_ofEntries]
  refine ⟨before', behind', rfl, fun m hm hkey => ?_⟩
  obtain ⟨e, he, hem⟩ := exists_of_forall₂ (forall₂_of_mapM hlast).flip hm
  obtain ⟨_, -, hem⟩ := exists_of_bind_eq_ok hem
  cases hem
  rcases hbehind e he with hlater | hlater
  · have hsame : Text.inOrder key key = true := or_self_iff.1 (Text.inOrder_total key key)
    rw [show e.1 = key from hkey, hsame] at hlater
    cases hlater
  · exact hback e hlater hkey

theorem sortEntries_shows {front back : List (String × Except Error Value)} {key : String}
    {x : Except Error Value} {v : Value} (hback : ∀ e ∈ back, e.1 ≠ key)
    (h : sortEntries (front ++ (key, x) :: back) = .ok v) :
    ∃ u, x = .ok u ∧ ∀ y, sortEntries (front ++ (key, y) :: back) = .ok v → y = .ok u := by
  obtain ⟨members, u, rfl, hu, hkey⟩ := get?_of_sortEntries hback h
  refine ⟨u, hu, fun y hy => ?_⟩
  obtain ⟨members', w, hsame, hw, hkey'⟩ := get?_of_sortEntries hback hy
  cases hsame
  rw [hw, Option.some.inj (hkey'.symm.trans hkey)]

theorem sortEntries_of_dict {front back : List (Datum × Datum)} {key d : Datum} {v : Value}
    (h : encode (.dict (front ++ (key, d) :: back)) = .ok v) :
    sortEntries (encodeEntries front ++ (key.plainText, encode d) :: encodeEntries back) =
      .ok v := by
  rw [encode] at h
  split at h
  · simpa [encodeEntries_eq_map] using h
  · cases h

theorem eq_of_perm_middle {α : Type} {front back : List α} {a b : α}
    (h : (front ++ a :: back).Perm (front ++ b :: back)) : a = b := by
  have hrow : ([a] ++ back).Perm ([b] ++ back) := (List.perm_append_left_iff front).1 h
  exact List.singleton_perm_singleton.1 ((List.perm_append_right_iff back).1 hrow)

theorem encodeItems_shows {front back : List Datum} {d : Datum} {vs : List Value}
    (h : encodeItems (front ++ d :: back) = .ok vs) :
    ∃ u, encode d = .ok u ∧ ∀ e vs', encodeItems (front ++ e :: back) = .ok vs' →
      vs.Perm vs' → encode e = .ok u := by
  rw [encodeItems_eq_mapM] at h
  obtain ⟨before, u, behind, hbefore, hu, hbehind, rfl⟩ := mapM_middle_eq_ok h
  refine ⟨u, hu, fun e vs' h' hperm => ?_⟩
  rw [encodeItems_eq_mapM] at h'
  obtain ⟨before', u', behind', hbefore', hu', hbehind', rfl⟩ := mapM_middle_eq_ok h'
  obtain rfl := Except.ok.inj (hbefore.symm.trans hbefore')
  obtain rfl := Except.ok.inj (hbehind.symm.trans hbehind')
  rw [hu', eq_of_perm_middle hperm]

theorem perm_of_sortItems {items sorted : List Value} (h : sortItems items = .ok sorted) :
    sorted.Perm items := by
  unfold sortItems at h
  split at h
  · cases h
    exact Sorting.sort_perm _ items
  · cases h

theorem encode_of_shows {place : Place} (hplace : place.Shows) {d : Datum} {v : Value}
    (h : encode (place.put d) = .ok v) :
    ∃ u, encode d = .ok u ∧ ∀ e, encode (place.put e) = .ok v → encode e = .ok u := by
  cases place with
  | item front back | cell front back =>
    obtain ⟨vs, hitems, h⟩ := exists_of_bind_eq_ok h
    obtain ⟨u, hu, hother⟩ := encodeItems_shows hitems
    refine ⟨u, hu, fun e he => ?_⟩
    obtain ⟨vs', hitems', he⟩ := exists_of_bind_eq_ok he
    cases h
    cases he
    exact hother e _ hitems' (.refl _)
  | member frozen front back =>
    obtain ⟨vs, hitems, h⟩ := exists_of_bind_eq_ok h
    obtain ⟨sorted, hsorted, h⟩ := exists_of_bind_eq_ok h
    obtain ⟨u, hu, hother⟩ := encodeItems_shows hitems
    refine ⟨u, hu, fun e he => ?_⟩
    obtain ⟨vs', hitems', he⟩ := exists_of_bind_eq_ok he
    obtain ⟨sorted', hsorted', he⟩ := exists_of_bind_eq_ok he
    cases h
    cases he
    exact hother e vs' hitems' ((perm_of_sortItems hsorted).symm.trans (perm_of_sortItems hsorted'))
  | value front back key =>
    have hback : ∀ e ∈ encodeEntries back, e.1 ≠ key.plainText := by
      rw [encodeEntries_eq_map, List.forall_mem_map]
      exact hplace
    obtain ⟨u, hu, hother⟩ := sortEntries_shows hback (sortEntries_of_dict h)
    exact ⟨u, hu, fun e he => hother _ (sortEntries_of_dict he)⟩
  | field kind front back name =>
    have hrecord (e : Datum) (he : encode (.record kind (front ++ (name, e) :: back)) = .ok v) :
        sortEntries (encodeFields front ++ (name, encode e) :: encodeFields back) = .ok v := by
      simpa [encode, encodeFields_eq_map] using he
    have hback : ∀ f ∈ encodeFields back, f.1 ≠ name := by
      rw [encodeFields_eq_map, List.forall_mem_map]
      exact hplace
    obtain ⟨u, hu, hother⟩ := sortEntries_shows hback (hrecord d h)
    exact ⟨u, hu, fun e he => hother _ (hrecord e he)⟩

/-! Maps in another order -/

theorem keysAgree_iff {entries : List (Datum × Datum)} :
    KeysAgree entries ↔
      ∀ a ∈ encodeEntries entries, ∀ b ∈ encodeEntries entries, a.1 = b.1 → a.2 = b.2 := by
  simp only [KeysAgree, encodeEntries_eq_map, List.forall_mem_map]

theorem KeysAgree.perm {entries entries' : List (Datum × Datum)} (h : entries.Perm entries')
    (hagree : KeysAgree entries) : KeysAgree entries' :=
  fun e he e' he' => hagree e (h.mem_iff.2 he) e' (h.mem_iff.2 he')

theorem encode_dict_perm {entries entries' : List (Datum × Datum)} (h : entries.Perm entries')
    (hagree : KeysAgree entries) : encode (.dict entries) = encode (.dict entries') := by
  have hperm : (encodeEntries entries).Perm (encodeEntries entries') := by
    rw [encodeEntries_eq_map, encodeEntries_eq_map]
    exact h.map _
  have hsort := @Sorting.sort_eq_of_perm _ (fun a b : String × Except Error Value =>
      Text.inOrder a.1 b.1) (fun a b => Text.inOrder_total a.1 b.1)
    (fun _ _ _ => Text.inOrder_trans) _ _ hperm fun a ha b hb hab hba => ?_
  · rw [encode, encode, h.all_eq, sortEntries, sortEntries, hsort]
  · have hkey := Text.eq_of_inOrder hab hba
    exact Prod.ext hkey (keysAgree_iff.1 hagree a ha b hb hkey)

theorem encode_rearranged {d d' : Datum} (h : Rearranged d d')
    (hagree : ∀ entries, Within (.dict entries) d → KeysAgree entries) :
    encode d = encode d' ∧ ∀ entries, Within (.dict entries) d' → KeysAgree entries := by
  induction h with
  | refl d => exact ⟨rfl, hagree⟩
  | trans _ _ ih ih' =>
    obtain ⟨heq, hagree⟩ := ih hagree
    obtain ⟨heq', hagree⟩ := ih' hagree
    exact ⟨heq.trans heq', hagree⟩
  | @entries entries entries' hperm =>
    refine ⟨encode_dict_perm hperm (hagree _ (.self _)), fun inner hinner => ?_⟩
    cases hinner with
    | self => exact (hagree _ (.self _)).perm hperm
    | part hp hinner => exact hagree _ (.part ((hperm.map _).mem_iff.2 hp) hinner)
  | @inside place d e _ ih =>
    obtain ⟨heq, hinside⟩ := ih fun entries hw =>
      hagree entries (.part ((Place.mem_parts_put place).2 (.inl rfl)) hw)
    refine ⟨encode_put_congr place heq, fun inner hinner => ?_⟩
    generalize hput : place.put e = whole at hinner
    cases hinner with
    | self =>
      -- Only a map that holds the rearranged value has new entries, and its keys are the old ones.
      cases place with
      | value front back key =>
        cases hput
        have hsame : encodeEntries (front ++ (key, e) :: back) =
            encodeEntries (front ++ (key, d) :: back) := by
          simp [encodeEntries_eq_map, heq]
        rw [keysAgree_iff, hsame]
        exact keysAgree_iff.1 (hagree _ (.self _))
      | _ => cases hput
    | part hp hinner =>
      subst hput
      rcases (Place.mem_parts_put place).1 hp with rfl | hp
      · exact hinside _ hinner
      · exact hagree _ (.part ((Place.mem_parts_put place).2 (.inr hp)) hinner)

theorem agree_of_unchanged {d : Datum} (hfields : d.HasDistinctFields) {v : Value}
    (h : ∀ d', Rearranged d d' → encode d' = .ok v) :
    ∀ entries, Within (.dict entries) d → KeysAgree entries := by
  induction d using Datum.partInduction generalizing v with
  | h d ih =>
    intro entries hentries
    cases hentries with
    | self =>
      intro e he e' he' hkey
      obtain ⟨rest, hlast⟩ := Datum.perm_last he
      obtain ⟨rest', hlast'⟩ := Datum.perm_last he'
      obtain ⟨members, u, rfl, hu, hget⟩ :=
        get?_of_sortEntries (List.forall_mem_nil _) (sortEntries_of_dict (h _ (.entries hlast)))
      obtain ⟨members', u', hsame, hu', hget'⟩ :=
        get?_of_sortEntries (List.forall_mem_nil _) (sortEntries_of_dict (h _ (.entries hlast')))
      cases hsame
      rw [hkey] at hget
      rw [hu, hu', Option.some.inj (hget.symm.trans hget')]
    | @part _ _ p hp hentries =>
      obtain ⟨place, hplace, hput⟩ := Datum.exists_place hfields hp
      obtain ⟨u, -, hother⟩ := encode_of_shows hplace (h _ hput)
      refine ih p hp (fun kind fields hw => hfields kind fields (.part hp hw)) (v := u) ?_
        entries hentries
      exact fun p' hp' => hother p' (h _ (hput.trans (.inside place hp')))

/-- The canonical text of a value does not depend on the order of entries if those with one text
agree, at every depth. -/
theorem text_rearranged {d d' : Datum} (h : Rearranged d d')
    (hagree : ∀ entries, Within (.dict entries) d → KeysAgree entries) : text d' = text d := by
  rw [text, text, (encode_rearranged h hagree).1]

/-- No reordering of entries, at any depth, changes the canonical text of a value exactly if entries
whose keys have one text stand for one document everywhere in it. -/
theorem text_rearranged_iff {d : Datum} (hfields : d.HasDistinctFields) {t : String}
    (h : text d = .ok t) :
    (∀ d', Rearranged d d' → text d' = .ok t) ↔
      ∀ entries, Within (.dict entries) d → KeysAgree entries := by
  constructor
  · intro hsame
    obtain ⟨v, hv, -⟩ := text_eq_ok h
    refine agree_of_unchanged hfields (v := v) fun d' hd' => ?_
    rw [← encode_eq_of_text h (hsame d' hd'), hv]
  · intro hagree d' hd'
    rw [text_rearranged hd' hagree, h]

example :
    let _ : Depths := .ofCalls 900
    text (.dict [(.bool true, .str "a"), (.str "True", .str "b")]) =
        .ok "\x7b\"True\":\"b\"\x7d" ∧
      text (.dict [(.str "True", .str "b"), (.bool true, .str "a")]) =
        .ok "\x7b\"True\":\"a\"\x7d" := by
  decide

end Canonical

end ExportBundle
