import ExportBundle.Proofs.Canonical
import ExportBundle.Proofs.Json.Arrangement
import ExportBundle.Proofs.Json.Depth

/-! What the canonical text of a document keeps of it. Encoding writes every number with a fraction as
a string and sorts the members of every object, and nothing else; the text reads as what was encoded.
Main statement: the canonical text of a document that is not too deep is read back as the document with
its fractions as strings and its members sorted, and of two documents it tells apart all that differ in
more than this. -/

namespace ExportBundle.Canonical

open Json (Value Exact)
open Json.Value (HasDistinctNames HasSortedNames Rearranged memberOrder arranged arrangedItems_eq
  arrangedMembers_eq)

mutual

/-- The document with the text of every number that has a fraction in place of the number. -/
def floatsAsText : Value → Value
  | .float x => .str (Datum.floatText x)
  | .arr items => .arr (floatsAsTextItems items)
  | .obj members => .obj (floatsAsTextMembers members)
  | .null => .null
  | .bool b => .bool b
  | .int n => .int n
  | .str s => .str s

def floatsAsTextItems : List Value → List Value
  | [] => []
  | v :: r => floatsAsText v :: floatsAsTextItems r

def floatsAsTextMembers : List (String × Value) → List (String × Value)
  | [] => []
  | (k, v) :: r => (k, floatsAsText v) :: floatsAsTextMembers r

end

theorem floatsAsTextItems_eq (items : List Value) :
    floatsAsTextItems items = items.map floatsAsText := by
  induction items with
  | nil => rfl
  | cons v r ih => rw [floatsAsTextItems, ih, List.map_cons]

theorem floatsAsTextMembers_eq (members : List (String × Value)) :
    floatsAsTextMembers members = members.map fun m => (m.1, floatsAsText m.2) := by
  induction members with
  | nil => rfl
  | cons m r ih => rw [floatsAsTextMembers, ih, List.map_cons]

theorem keys_map_values (f : Value → Value) (members : List (String × Value)) :
    OrderedMap.keys (members.map fun m => (m.1, f m.2)) = OrderedMap.keys members := by
  rw [OrderedMap.keys, List.map_map]
  rfl

theorem hasDistinctNames_floatsAsText {v : Value} (h : v.HasDistinctNames) :
    (floatsAsText v).HasDistinctNames := by
  induction h with
  | null => exact .null
  | bool b => exact .bool b
  | int n => exact .int n
  | float x => exact .str _
  | str s => exact .str s
  | arr _ ih =>
    rw [floatsAsText, floatsAsTextItems_eq]
    exact .arr (List.forall_mem_map.2 ih)
  | obj hnames _ ih =>
    rw [floatsAsText, floatsAsTextMembers_eq]
    exact .obj (by rwa [keys_map_values]) (List.forall_mem_map.2 ih)

theorem map_floatsAsText {β : Type} {f : Value → β} {items : List Value}
    (h : ∀ v ∈ items, f (floatsAsText v) = f v) :
    (items.map floatsAsText).map f = items.map f := by
  rw [List.map_map]
  exact List.map_congr_left h

theorem map_members_floatsAsText {β : Type} {f : Value → β} {members : List (String × Value)}
    (h : ∀ m ∈ members, f (floatsAsText m.2) = f m.2) :
    (members.map fun m => (m.1, floatsAsText m.2)).map (f ·.2) = members.map (f ·.2) := by
  rw [List.map_map]
  exact List.map_congr_left h

theorem depth_floatsAsText (v : Value) : (floatsAsText v).depth = v.depth := by
  induction v using Value.nestedInduction with
  | null => rfl
  | bool b => rfl
  | int n => rfl
  | float x => rfl
  | str s => rfl
  | arr items ih =>
    rw [floatsAsText, floatsAsTextItems_eq, Value.depth, Value.depth, Value.depthOfItems_eq,
      Value.depthOfItems_eq, map_floatsAsText ih]
  | obj members ih =>
    rw [floatsAsText, floatsAsTextMembers_eq, Value.depth, Value.depth, Value.depthOfMembers_eq,
      Value.depthOfMembers_eq, map_members_floatsAsText ih]

theorem fits_floatsAsText (v : Value) : (floatsAsText v).fitsDigitLimit = v.fitsDigitLimit := by
  induction v using Value.nestedInduction with
  | null => rfl
  | bool b => rfl
  | int n => rfl
  | float x => rfl
  | str s => rfl
  | arr items ih =>
    rw [floatsAsText, floatsAsTextItems_eq, Value.fitsDigitLimit, Value.fitsDigitLimit,
      Value.allFit_eq, Value.allFit_eq, map_floatsAsText ih]
  | obj members ih =>
    rw [floatsAsText, floatsAsTextMembers_eq, Value.fitsDigitLimit, Value.fitsDigitLimit,
      Value.allMembersFit_eq, Value.allMembersFit_eq, map_members_floatsAsText ih]

/-! Documents without fractions -/

theorem floatsAsText_of_exact {limited : Bool} {v : Value} (h : Exact limited v) :
    floatsAsText v = v := by
  induction h with
  | null => rfl
  | bool b => rfl
  | int _ => rfl
  | str s => rfl
  | arr _ ih => rw [floatsAsText, floatsAsTextItems_eq, List.map_congr_left ih, List.map_id']
  | @obj members _ _ ih =>
    have hmembers : members.map (fun m => (m.1, floatsAsText m.2)) = members.map id :=
      List.map_congr_left fun m hm => by rw [ih m hm, id]
    rw [floatsAsText, floatsAsTextMembers_eq, hmembers, List.map_id]

theorem hasDistinctNames_of_exact {limited : Bool} {v : Value} (h : Exact limited v) :
    v.HasDistinctNames := by
  induction h with
  | null => exact .null
  | bool b => exact .bool b
  | int _ => exact .int _
  | str s => exact .str s
  | arr _ ih => exact .arr ih
  | obj hkeys _ ih => exact .obj hkeys ih

theorem exact_of_fits {v : Value} (h : Exact false v) (hfits : v.fitsDigitLimit = true) :
    Exact true v := by
  induction h with
  | null => exact .null
  | bool b => exact .bool b
  | int _ => exact .int fun _ => hfits
  | str s => exact .str s
  | arr _ ih =>
    rw [Value.fitsDigitLimit, Value.allFit_eq, List.all_map, List.all_eq_true] at hfits
    exact .arr fun v hv => ih v hv (hfits v hv)
  | obj hkeys _ ih =>
    rw [Value.fitsDigitLimit, Value.allMembersFit_eq, List.all_map, List.all_eq_true] at hfits
    exact .obj hkeys fun m hm => ih m hm (hfits m hm)

/-! The document that stands for a document -/

theorem encodeItems_ofItems {f : Value → Value} {items : List Value}
    (h : ∀ v ∈ items, encode (.ofJson v) = .ok (f v)) :
    encodeItems (Datum.ofItems items) = .ok (items.map f) := by
  induction items with
  | nil => rfl
  | cons v r ih =>
    obtain ⟨hv, hr⟩ := List.forall_mem_cons.1 h
    rw [Datum.ofItems, encodeItems, hv, ih hr]
    rfl

theorem encode_obj (members : List (String × Value)) :
    encode (.ofJson (.obj members)) =
      sortEntries (members.map fun m => (m.1, encode (.ofJson m.2))) := by
  have hkeys (members : List (String × Value)) :
      ((Datum.ofMembers members).all fun e => e.1.fitsDigitLimit) = true := by
    induction members with
    | nil => rfl
    | cons m r ih =>
      rw [Datum.ofMembers, List.all_cons, ih]
      rfl
  rw [Datum.ofJson, encode, if_pos (hkeys members), encodeEntries_ofMembers]

theorem sortEntries_members {members : List (String × Value)}
    (hnames : (OrderedMap.keys members).Nodup) :
    sortEntries (members.map fun m => (m.1, .ok m.2)) =
      .ok (.obj (Sorting.sort memberOrder members)) := by
  have htake (l : List (String × Value)) :
      ((l.map fun m => (m.1, (.ok m.2 : Except Error Value))).mapM fun e => do
        return (e.1, ← e.2)) = .ok l := by
    induction l with
    | nil => rfl
    | cons m r ih =>
      rw [List.map_cons, List.mapM_cons, ih]
      rfl
  have hdistinct : (OrderedMap.keys (Sorting.sort memberOrder members)).Nodup :=
    ((Sorting.sort_perm memberOrder members).map Prod.fst).nodup_iff.2 hnames
  have hsort : Sorting.sort (fun a b => Text.inOrder a.1 b.1)
      (members.map fun m => (m.1, (.ok m.2 : Except Error Value))) =
      (Sorting.sort memberOrder members).map fun m => (m.1, .ok m.2) :=
    Sorting.sort_map (fun _ _ => rfl) members
  rw [sortEntries, hsort, htake]
  change Except.ok (Value.obj (OrderedMap.ofEntries (Sorting.sort memberOrder members))) = _
  rw [OrderedMap.ofEntries_of_nodup hdistinct]

theorem encode_ofJson {v : Value} (h : v.HasDistinctNames) :
    encode (.ofJson v) = .ok (floatsAsText v).arranged := by
  induction h with
  | null => rfl
  | bool b => rfl
  | int n => rfl
  | float x => rfl
  | str s => rfl
  | arr _ ih =>
    rw [Datum.ofJson, encode, encodeItems_ofItems ih, floatsAsText, floatsAsTextItems_eq, arranged,
      arrangedItems_eq, List.map_map]
    rfl
  | @obj members hnames _ ih =>
    have hmembers : members.map (fun m => (m.1, encode (.ofJson m.2))) =
        (members.map fun m => (m.1, (floatsAsText m.2).arranged)).map fun m => (m.1, .ok m.2) := by
      rw [List.map_map]
      exact List.map_congr_left fun m hm => by rw [ih m hm]; rfl
    rw [encode_obj, hmembers,
      sortEntries_members (by rwa [keys_map_values fun v => (floatsAsText v).arranged]),
      floatsAsText, floatsAsTextMembers_eq, arranged, arrangedMembers_eq, List.map_map]
    rfl

/-! The canonical text of a document -/

variable {depths : Depths}

theorem depth_arranged (v : Value) : (floatsAsText v).arranged.depth = v.depth := by
  rw [← (Value.rearranged_arranged _).depth_eq, depth_floatsAsText]

theorem fits_arranged (v : Value) :
    (floatsAsText v).arranged.fitsDigitLimit = v.fitsDigitLimit := by
  rw [← (Value.rearranged_arranged _).fits_eq, fits_floatsAsText]

theorem text_ofJson_eq_ok {v : Value} (h : v.HasDistinctNames) {t : String} :
    text (.ofJson v) = .ok t ↔
      v.depth ≤ Depths.encoding ∧ v.fitsDigitLimit = true ∧
        t = (floatsAsText v).arranged.print .compact := by
  rw [text, encode_ofJson h]
  simp only [bind, Except.bind, depth_arranged, fits_arranged]
  by_cases hdepth : Depths.encoding < v.depth
  · rw [if_pos hdepth]
    constructor
    · intro h
      cases h
    · intro h
      omega
  · rw [if_neg hdepth]
    by_cases hfits : v.fitsDigitLimit = true
    · simp [hfits, pure, Except.pure, Nat.not_lt.1 hdepth, eq_comm]
    · simp [hfits, throw, throwThe, MonadExceptOf.throw]

theorem spells_text {v : Value} (h : v.HasDistinctNames) {t : String}
    (ht : text (.ofJson v) = .ok t) :
    Exact true (floatsAsText v).arranged ∧ t = (floatsAsText v).arranged.print .compact := by
  obtain ⟨-, hfits, rfl⟩ := (text_ofJson_eq_ok h).1 ht
  exact ⟨exact_of_fits (exact_encode (encode_ofJson h)) (by rw [fits_arranged, hfits]), rfl⟩

theorem read_text {v : Value} (h : v.HasDistinctNames) {t : String}
    (ht : text (.ofJson v) = .ok t) : Json.read t.toList = .ok (floatsAsText v).arranged := by
  obtain ⟨hexact, rfl⟩ := spells_text h ht
  exact Json.read_of_spells hexact.spells_compact

theorem load_text {v : Value} (h : v.HasDistinctNames) {t : String}
    (ht : text (.ofJson v) = .ok t) (hdepth : v.depth ≤ Depths.reading) :
    Json.load t.toList = .ok (floatsAsText v).arranged := by
  obtain ⟨hexact, rfl⟩ := spells_text h ht
  exact Json.load_printCompact hexact (by rwa [depth_arranged])

/-- Documents that differ in the order of members only, once their fractions are text, are those with
one canonical text. -/
theorem text_eq_iff {v w : Value} (hv : v.HasDistinctNames) (hw : w.HasDistinctNames) {t : String}
    (ht : text (.ofJson v) = .ok t) :
    text (.ofJson w) = .ok t ↔ Rearranged (floatsAsText v) (floatsAsText w) := by
  rw [Value.rearranged_iff (hasDistinctNames_floatsAsText hv)]
  constructor
  · intro ht'
    have hread := read_text hv ht
    rw [read_text hw ht'] at hread
    exact (Except.ok.inj hread).symm
  · intro hsame
    obtain ⟨hdepth, hfits, rfl⟩ := (text_ofJson_eq_ok hv).1 ht
    rw [← depth_arranged, hsame, depth_arranged] at hdepth
    rw [← fits_arranged, hsame, fits_arranged] at hfits
    exact (text_ofJson_eq_ok hw).2 ⟨hdepth, hfits, by rw [hsame]⟩

/-- A document for whose encoding there is room has a canonical text, and that is read back as the
document with its fractions as text and with sorted members. It is the text of no document that
differs in more, so that two documents without fractions have it only if they are one up to the order
of members. -/
theorem text_faithful {v : Value} (hnames : v.HasDistinctNames) (hfits : v.fitsDigitLimit = true)
    (hdepth : v.depth ≤ Depths.encoding) :
    ∃ t w, text (.ofJson v) = .ok t ∧ Json.read t.toList = .ok w ∧
      (v.depth ≤ Depths.reading → Json.load t.toList = .ok w) ∧
      Rearranged (floatsAsText v) w ∧ w.HasSortedNames ∧
      (∀ v' : Value, v'.HasDistinctNames →
        (text (.ofJson v') = .ok t ↔ Rearranged (floatsAsText v) (floatsAsText v'))) ∧
      ∀ v', Exact false v → Exact false v' → text (.ofJson v') = .ok t → Rearranged v v' := by
  have ht := (text_ofJson_eq_ok hnames).2 ⟨hdepth, hfits, rfl⟩
  refine ⟨_, _, ht, read_text hnames ht, load_text hnames ht, Value.rearranged_arranged _,
    (hasDistinctNames_floatsAsText hnames).hasSortedNames,
    fun v' hnames' => text_eq_iff hnames hnames' ht, fun v' hexact hexact' ht' => ?_⟩
  have hsame := (text_eq_iff hnames (hasDistinctNames_of_exact hexact') ht).1 ht'
  rwa [floatsAsText_of_exact hexact, floatsAsText_of_exact hexact'] at hsame

/-- An object with its names out of order, a fraction and an object inside. -/
def mixed : Value :=
  .obj [("b", .float (.finite false 3 (-1))),
    ("a", .obj [("z", .arr [.int 1, .bool true]), ("", .null)])]

def turned : Value :=
  .obj [("a", .obj [("z", .arr [.int 1, .bool true]), ("", .null)]),
    ("b", .float (.finite false 3 (-1)))]

theorem rearranged_turned : Rearranged mixed turned := .members (List.Perm.swap _ _ _)

theorem mixed_hasDistinctNames : mixed.HasDistinctNames := by
  have hinner : HasDistinctNames (.obj [("z", .arr [.int 1, .bool true]), ("", .null)]) := by
    refine .obj (by decide) fun m hm => ?_
    simp only [List.mem_cons, List.not_mem_nil, or_false] at hm
    rcases hm with rfl | rfl
    · refine .arr fun v hv => ?_
      simp only [List.mem_cons, List.not_mem_nil, or_false] at hv
      rcases hv with rfl | rfl
      · exact .int 1
      · exact .bool true
    · exact .null
  refine .obj (by decide) fun m hm => ?_
  simp only [List.mem_cons, List.not_mem_nil, or_false] at hm
  rcases hm with rfl | rfl
  · exact .float _
  · exact hinner

theorem text_faithful_mixed :
    let _ : Depths := .ofCalls 900
    mixed.HasDistinctNames ∧ mixed.fitsDigitLimit = true ∧ mixed.depth ≤ Depths.encoding ∧
      ∃ t w, text (.ofJson mixed) = .ok t ∧ text (.ofJson turned) = .ok t ∧
        Json.load t.toList = .ok w ∧ Rearranged (floatsAsText mixed) w ∧ w.HasSortedNames := by
  intro _
  have hone : Text.fitsDigitLimit 1 = true := by
    have hlimit : Text.digitLimit ≠ 0 := by decide
    rw [Text.fitsDigitLimit, decide_eq_true_eq]
    generalize Text.digitLimit = n at hlimit
    exact Nat.one_lt_pow hlimit (by decide)
  have hfits : mixed.fitsDigitLimit = true := by
    simp only [mixed, Value.fitsDigitLimit, Value.allFit, Value.allMembersFit, hone, Bool.and_true]
  have hdepth : mixed.depth ≤ Depths.encoding := by decide
  obtain ⟨t, w, ht, -, hload, hsame, hsorted, hunique, _⟩ :=
    text_faithful mixed_hasDistinctNames hfits hdepth
  have hnames : turned.HasDistinctNames :=
    (rearranged_turned.arranged_eq mixed_hasDistinctNames).1
  have hturned : Rearranged (floatsAsText mixed) (floatsAsText turned) :=
    .members (List.Perm.swap _ _ _)
  exact ⟨mixed_hasDistinctNames, hfits, hdepth, t, w, ht, (hunique turned hnames).2 hturned,
    hload (by decide), hsame, hsorted⟩

/-! Documents that are too deep -/

theorem text_tooDeep {v : Value} (h : v.HasDistinctNames) (hdeep : Depths.encoding < v.depth) :
    text (.ofJson v) = .error .tooDeep := by
  rw [text, encode_ofJson h]
  simp only [bind, Except.bind, depth_arranged]
  rw [if_pos hdeep]
  rfl

/-- Nothing in the inmost of some arrays, each the only item of the next. -/
def stacked : Nat → Value
  | 0 => .null
  | n + 1 => .arr [stacked n]

theorem depth_stacked (n : Nat) : (stacked n).depth = n := by
  induction n with
  | zero => rfl
  | succ n ih => rw [stacked, Value.depth, Value.depthOfItems, Value.depthOfItems, ih, Nat.max_zero]

theorem exact_stacked (n : Nat) : Exact true (stacked n) := by
  induction n with
  | zero => exact .null
  | succ n ih => exact .arr (List.forall_mem_singleton.2 ih)

theorem fits_stacked (n : Nat) : (stacked n).fitsDigitLimit = true := by
  induction n with
  | zero => rfl
  | succ n ih => rw [stacked, Value.fitsDigitLimit, Value.allFit, Value.allFit, ih, Bool.and_true]

/-- Six hundred arrays in each other have no canonical text where there is room to encode fewer, even
if there is room to read them. -/
theorem stacked_without_text :
    (stacked 600).HasDistinctNames ∧ (stacked 600).fitsDigitLimit = true ∧
      ∀ depths : Depths, depths.encoding < 600 → 600 ≤ depths.reading →
        Json.load ((stacked 600).print .compact).toList = .ok (stacked 600) ∧
          text (.ofJson (stacked 600)) = .error .tooDeep := by
  have hnames := hasDistinctNames_of_exact (exact_stacked 600)
  refine ⟨hnames, fits_stacked 600, fun depths hencoding hreading => ⟨?_, ?_⟩⟩
  · exact Json.load_printCompact (exact_stacked 600) (by rwa [depth_stacked])
  · exact text_tooDeep hnames (by rwa [depth_stacked])

end ExportBundle.Canonical
