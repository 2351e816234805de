import ExportBundle.Export.Scope
import ExportBundle.Identifier.Basic
import ExportBundle.Proofs.Text.Quoted

/-! Scoped declarations inside a text. Where the names are made of letters at most one declaration
begins at a place, so that cutting finds exactly the declarations that a text has there. Main
statement: freeing takes the first declaration of each name and leaves quiet stretches alone. -/

namespace ExportBundle.Export.Scope

open Identifier (isLetter)
open Text (isBlank)

/-- A name made of letters. -/
structure IsLetterName (name : List Char) : Prop where
  ne : name ≠ []
  letters : ∀ c ∈ name, isLetter c = true

/-- The declaration `d` stands at the beginning of the text, with `left` to its left: a keyword
that nothing hides, blanks, a name that ends there, and an equals sign. -/
structure Begins (d : Declaration) (left : Option Char) (text : List Char) : Prop where
  unhidden : left.any hidesKeyword = false
  parts : ∃ keyword blanks rest, keyword ∈ keywords ∧ blanks ≠ [] ∧ (∀ c ∈ blanks, isBlank c = true) ∧
    d.lead = keyword ++ blanks ∧ text = d.text ++ rest ∧ endsName rest = true

def Declares (name text : List Char) : Prop :=
  ∃ d before after, text = before ++ after ∧ Begins d before.getLast? after ∧ d.name = name

section Characters

theorem isVisible_of_isLetter {c : Char} (h : isLetter c = true) : Text.isVisible c = true := by
  change ((decide (c.val ≥ 'A'.val ∧ c.val ≤ 'Z'.val) ||
    decide (c.val ≥ 'a'.val) && decide (c.val ≤ 'z'.val))) = true at h
  simp only [Bool.or_eq_true, Bool.and_eq_true, decide_eq_true_eq, ge_iff_le,
    UInt32.le_iff_toNat_le] at h
  have hupper : 'A'.val.toNat = 65 ∧ 'Z'.val.toNat = 90 := by decide
  have hlower : 'a'.val.toNat = 97 ∧ 'z'.val.toNat = 122 := by decide
  simp only [Text.isVisible, Char.toNat, Bool.and_eq_true, decide_eq_true_eq]
  omega

theorem isBlank_of_isLetter {c : Char} (h : isLetter c = true) : isBlank c = false :=
  Text.isBlank_eq_false_of_isVisible (isVisible_of_isLetter h)

theorem continuesName_of_isLetter {c : Char} (h : isLetter c = true) : continuesName c = true := by
  have hword : c.isAlphanum = true := by
    rw [Char.isAlphanum, Bool.or_eq_true]
    exact .inl h
  rw [continuesName, Text.isWord_of_isAlphanum hword, Bool.true_or]

theorem hidesKeyword_of_isLetter {c : Char} (h : isLetter c = true) : hidesKeyword c = true := by
  rw [hidesKeyword, continuesName_of_isLetter h, Bool.true_or]

theorem isLetter_of_mem_keyword {keyword : List Char} (h : keyword ∈ keywords) :
    ∀ c ∈ keyword, isLetter c = true := by
  revert keyword
  decide

theorem takeWhile_span {p : Char → Bool} {a r : List Char} (ha : ∀ c ∈ a, p c = true)
    (hr : r.head?.any p = false) : (a ++ r).takeWhile p = a := by
  rw [List.takeWhile_append_of_pos ha]
  cases r with
  | nil => simp
  | cons c r =>
    have hc : p c = false := by simpa using hr
    rw [List.takeWhile_cons_of_neg (by simp [hc]), List.append_nil]

theorem dropWhile_span {p : Char → Bool} {a r : List Char} (ha : ∀ c ∈ a, p c = true)
    (hr : r.head?.any p = false) : (a ++ r).dropWhile p = r := by
  rw [List.dropWhile_append_of_pos ha]
  cases r with
  | nil => rfl
  | cons c r =>
    have hc : p c = false := by simpa using hr
    rw [List.dropWhile_cons_of_neg (by simp [hc])]

theorem span_unique {p : Char → Bool} {a a' r r' : List Char} (ha : ∀ c ∈ a, p c = true)
    (ha' : ∀ c ∈ a', p c = true) (hr : r.head?.any p = false) (hr' : r'.head?.any p = false)
    (h : a ++ r = a' ++ r') : a = a' ∧ r = r' := by
  constructor
  · rw [← takeWhile_span ha hr, h, takeWhile_span ha' hr']
  · rw [← dropWhile_span ha hr, h, dropWhile_span ha' hr']

theorem head?_any_append {p : Char → Bool} {a r : List Char} (hne : a ≠ [])
    (ha : ∀ c ∈ a, p c = false) : (a ++ r).head?.any p = false := by
  cases a with
  | nil => exact absurd rfl hne
  | cons c a => simpa using ha c (by simp)

theorem endsName_head {rest : List Char} (h : endsName rest = true) :
    rest.head?.any isLetter = false := by
  cases rest with
  | nil => rfl
  | cons c r =>
    rw [endsName, Bool.and_eq_true, Bool.not_eq_true'] at h
    have hc : continuesName c = false := by simpa using h.1
    cases hl : isLetter c with
    | false => simpa using hl
    | true =>
      rw [continuesName_of_isLetter hl] at hc
      cases hc

theorem not_isLetter_of_isBlank {c : Char} (h : isBlank c = true) : isLetter c = false := by
  cases hl : isLetter c with
  | false => rfl
  | true =>
    rw [isBlank_of_isLetter hl] at h
    cases h

end Characters

section Begins

variable {d d' : Declaration} {left : Option Char} {text : List Char}

theorem Begins.word (h : Begins d left text) :
    text.takeWhile isLetter ∈ keywords ∧ (text.dropWhile isLetter).head?.any isBlank = true := by
  obtain ⟨keyword, blanks, rest, hkeyword, hne, hblanks, hlead, rfl, -⟩ := h.parts
  have hletters := isLetter_of_mem_keyword hkeyword
  have hstop : (blanks ++ (d.name ++ rest)).head?.any isLetter = false :=
    head?_any_append hne fun c hc => not_isLetter_of_isBlank (hblanks c hc)
  have htext : d.text ++ rest = keyword ++ (blanks ++ (d.name ++ rest)) := by
    simp [Declaration.text, hlead]
  rw [htext, takeWhile_span hletters hstop, dropWhile_span hletters hstop]
  refine ⟨hkeyword, ?_⟩
  cases blanks with
  | nil => exact absurd rfl hne
  | cons c r => simpa using hblanks c (by simp)

theorem parts_unique {k k' b b' n n' r r' : List Char} (hk : k ∈ keywords) (hk' : k' ∈ keywords)
    (hbne : b ≠ []) (hbne' : b' ≠ []) (hb : ∀ c ∈ b, isBlank c = true)
    (hb' : ∀ c ∈ b', isBlank c = true) (hn : IsLetterName n) (hn' : IsLetterName n')
    (hr : r.head?.any isLetter = false) (hr' : r'.head?.any isLetter = false)
    (h : k ++ (b ++ (n ++ r)) = k' ++ (b' ++ (n' ++ r'))) : k = k' ∧ b = b' ∧ n = n' ∧ r = r' := by
  have stop {b t : List Char} (hne : b ≠ []) (hb : ∀ c ∈ b, isBlank c = true) :
      (b ++ t).head?.any isLetter = false :=
    head?_any_append hne fun c hc => not_isLetter_of_isBlank (hb c hc)
  have start {n t : List Char} (hn : IsLetterName n) : (n ++ t).head?.any isBlank = false :=
    head?_any_append hn.ne fun c hc => isBlank_of_isLetter (hn.letters c hc)
  obtain ⟨rfl, hblanks⟩ := span_unique (isLetter_of_mem_keyword hk) (isLetter_of_mem_keyword hk')
    (stop hbne hb) (stop hbne' hb') h
  obtain ⟨rfl, hname⟩ := span_unique hb hb' (start hn) (start hn') hblanks
  obtain ⟨rfl, rfl⟩ := span_unique hn.letters hn'.letters hr hr' hname
  exact ⟨rfl, rfl, rfl, rfl⟩

theorem Begins.eq_of_parts {k b n r : List Char} (h : Begins d left (k ++ (b ++ (n ++ r))))
    (hd : IsLetterName d.name) (hk : k ∈ keywords) (hbne : b ≠ [])
    (hb : ∀ c ∈ b, isBlank c = true) (hn : IsLetterName n) (hr : r.head?.any isLetter = false) :
    d = ⟨k ++ b, n⟩ ∧ endsName r = true := by
  obtain ⟨keyword, blanks, rest, hkeyword, hne, hblanks, hlead, htext, hends⟩ := h.parts
  have hsplit : k ++ (b ++ (n ++ r)) = keyword ++ (blanks ++ (d.name ++ rest)) := by
    rw [htext]
    simp [Declaration.text, hlead]
  obtain ⟨rfl, rfl, rfl, rfl⟩ := parts_unique hk hkeyword hbne hne hb hblanks hn hd hr
    (endsName_head hends) hsplit
  rw [← hlead]
  exact ⟨rfl, hends⟩

theorem Begins.unique (h : Begins d left text) (h' : Begins d' left text)
    (hd : IsLetterName d.name) (hd' : IsLetterName d'.name) : d = d' := by
  obtain ⟨keyword, blanks, rest, hkeyword, hne, hblanks, hlead, htext, hends⟩ := h'.parts
  have hparts : text = keyword ++ (blanks ++ (d'.name ++ rest)) := by
    rw [htext]
    simp [Declaration.text, hlead]
  rw [hparts] at h
  rw [(h.eq_of_parts hd hkeyword hne hblanks hd' (endsName_head hends)).1, ← hlead]

end Begins

section Searching

variable {names : List (List Char)}

theorem after?_eq_some {lead text rest : List Char} :
    after? lead text = some rest ↔ text = lead ++ rest := by
  unfold after?
  constructor
  · intro h
    split at h
    · rename_i hp
      obtain ⟨t, rfl⟩ := List.isPrefixOf_iff_prefix.1 hp
      simp_all
    · cases h
  · rintro rfl
    simp

theorem declared?_eq_some {text name : List Char} (h : declared? names text = some name) :
    name ∈ names ∧ ∃ rest, text = name ++ rest ∧ endsName rest = true := by
  have hfound := List.find?_some h
  obtain ⟨rest, hrest, hends⟩ := Option.any_eq_true _ _ |>.1 hfound
  exact ⟨List.mem_of_find?_eq_some h, rest, after?_eq_some.1 hrest, hends⟩

theorem isSome_declared? {name rest : List Char} (hname : name ∈ names)
    (hends : endsName rest = true) : (declared? names (name ++ rest)).isSome = true := by
  rw [declared?, List.find?_isSome]
  refine ⟨name, hname, ?_⟩
  rw [after?_eq_some.2 rfl]
  exact hends

theorem withKeyword?_eq_some {keyword text : List Char} {d : Declaration}
    (h : withKeyword? names keyword text = some d) :
    d.name ∈ names ∧ ∃ blanks rest, blanks ≠ [] ∧ (∀ c ∈ blanks, isBlank c = true) ∧
      d.lead = keyword ++ blanks ∧ text = d.text ++ rest ∧ endsName rest = true := by
  obtain ⟨after, hafter, h⟩ := Option.bind_eq_some_iff.1 h
  obtain ⟨fewer, hfewer, h⟩ := List.exists_of_findSome?_eq_some h
  obtain ⟨name, hname, rfl⟩ := Option.map_eq_some_iff.1 h
  obtain ⟨hmem, rest, hrest, hends⟩ := declared?_eq_some hname
  have hcount : 0 < (after.takeWhile isBlank).length - fewer := by
    have := List.mem_range.1 hfewer
    omega
  refine ⟨hmem, (after.takeWhile isBlank).take ((after.takeWhile isBlank).length - fewer), rest,
    ?_, ?_, rfl, ?_, hends⟩
  · intro hnil
    have hlength := congrArg List.length hnil
    simp only [List.length_take, List.length_nil] at hlength
    omega
  · intro c hc
    exact List.all_eq_true.1 List.all_takeWhile c (List.mem_of_mem_take hc)
  · obtain ⟨t, ht⟩ := List.takeWhile_prefix (l := after) isBlank
    have hprefix : (after.takeWhile isBlank).take ((after.takeWhile isBlank).length - fewer) =
        after.take ((after.takeWhile isBlank).length - fewer) :=
      (List.take_append_of_le_length (Nat.sub_le _ _)).symm.trans (congrArg (List.take _) ht)
    rw [after?_eq_some.1 hafter, Declaration.text, hprefix, List.append_assoc, List.append_assoc,
      ← hrest, List.take_append_drop]

theorem isSome_withKeyword? {keyword blanks name rest : List Char} (hne : blanks ≠ [])
    (hblanks : ∀ c ∈ blanks, isBlank c = true) (hmem : name ∈ names) (hname : IsLetterName name)
    (hends : endsName rest = true) :
    (withKeyword? names keyword (keyword ++ (blanks ++ (name ++ rest)))).isSome = true := by
  have hstop : (name ++ rest).head?.any isBlank = false :=
    head?_any_append hname.ne fun c hc => isBlank_of_isLetter (hname.letters c hc)
  unfold withKeyword?
  rw [after?_eq_some.2 rfl, Option.bind_eq_bind, Option.bind_some, takeWhile_span hblanks hstop,
    List.findSome?_isSome_iff]
  refine ⟨0, List.mem_range.2 (List.length_pos_iff.2 hne), ?_⟩
  simp only [Nat.sub_zero, List.drop_left, Option.isSome_map]
  exact isSome_declared? hmem hends

theorem declarationAt?_eq_some {left : Option Char} {text : List Char} {d : Declaration}
    (h : declarationAt? names left text = some d) : d.name ∈ names ∧ Begins d left text := by
  unfold declarationAt? at h
  split at h
  · cases h
  · rename_i hleft
    obtain ⟨keyword, hkeyword, h⟩ := List.exists_of_findSome?_eq_some h
    obtain ⟨hmem, blanks, rest, hne, hblanks, hlead, htext, hends⟩ := withKeyword?_eq_some h
    exact ⟨hmem, by simpa using hleft,
      keyword, blanks, rest, hkeyword, hne, hblanks, hlead, htext, hends⟩

theorem Begins.declarationAt?_eq {left : Option Char} {text : List Char} {d : Declaration}
    (h : Begins d left text) (hnames : ∀ name ∈ names, IsLetterName name) (hmem : d.name ∈ names) :
    declarationAt? names left text = some d := by
  obtain ⟨keyword, blanks, rest, hkeyword, hne, hblanks, hlead, htext, hends⟩ := h.parts
  have hparts : text = keyword ++ (blanks ++ (d.name ++ rest)) := by
    rw [htext]
    simp [Declaration.text, hlead]
  have hsome : (declarationAt? names left text).isSome = true := by
    rw [declarationAt?, h.unhidden, if_neg Bool.false_ne_true, List.findSome?_isSome_iff, hparts]
    exact ⟨keyword, hkeyword, isSome_withKeyword? hne hblanks hmem (hnames _ hmem) hends⟩
  obtain ⟨d', hd'⟩ := Option.isSome_iff_exists.1 hsome
  obtain ⟨hmem', h'⟩ := declarationAt?_eq_some hd'
  rw [hd', h.unique h' (hnames _ hmem) (hnames _ hmem')]

end Searching

section Cutting

variable {names freed : List (List Char)} {left : Option Char} {text rest : List Char}
  {d : Declaration}

theorem getLast?_cons_or (c : Char) (a : List Char) (left : Option Char) :
    (c :: a).getLast?.or left = a.getLast?.or (some c) := by
  cases a with
  | nil => rfl
  | cons b a => simp [List.getLast?_cons]

theorem Begins.text_ne_nil (h : Begins d left text) : d.text ≠ [] := by
  obtain ⟨keyword, blanks, -, -, hne, -, hlead, -, -⟩ := h.parts
  simp [Declaration.text, hlead, hne]

theorem cut_skip (names : List (List Char)) (left : Option Char) (a rest : List Char) :
    cut names left a.length (a ++ rest) = cut names (a.getLast?.or left) 0 rest := by
  induction a generalizing left with
  | nil => rfl
  | cons c a ih =>
    rw [List.cons_append, List.length_cons, cut, ih (some c), getLast?_cons_or]

theorem Begins.cut_eq (h : Begins d left (d.text ++ rest))
    (hnames : ∀ name ∈ names, IsLetterName name) (hmem : d.name ∈ names) :
    cut names left 0 (d.text ++ rest) = .declaration d :: cut names d.text.getLast? 0 rest := by
  have hfound := h.declarationAt?_eq hnames hmem
  cases ht : d.text with
  | nil => exact absurd ht h.text_ne_nil
  | cons c a =>
    rw [ht] at hfound
    rw [List.cons_append] at hfound ⊢
    rw [cut, hfound]
    have hskip : d.text.length - 1 = a.length := by simp [ht]
    simp only [hskip, cut_skip]
    rw [← getLast?_cons_or c a none, Option.or_none]

theorem flatMap_text_cut (names : List (List Char)) (left : Option Char) (skip : Nat)
    (text : List Char) : (cut names left skip text).flatMap Piece.text = text.drop skip := by
  induction text generalizing left skip with
  | nil => simp [cut]
  | cons c r ih =>
    cases skip with
    | succ skip => rw [cut, ih, List.drop_succ_cons]
    | zero =>
      rw [cut]
      cases hd : declarationAt? names left (c :: r) with
      | none => simp [ih, Piece.text]
      | some d =>
        obtain ⟨-, h⟩ := declarationAt?_eq_some hd
        obtain ⟨keyword, blanks, rest, -, -, -, -, htext, -⟩ := h.parts
        cases ht : d.text with
        | nil => exact absurd ht h.text_ne_nil
        | cons c' a =>
          rw [ht, List.cons_append] at htext
          obtain ⟨rfl, rfl⟩ := List.cons.inj htext
          simp [ih, Piece.text, ht]

theorem mem_cut {skip : Nat} (h : .declaration d ∈ cut names left skip text) :
    d.name ∈ names ∧ ∃ u v, text = u ++ v ∧ Begins d (u.getLast?.or left) v := by
  induction text generalizing left skip with
  | nil => simp [cut] at h
  | cons c r ih =>
    have later {skip : Nat} (h : .declaration d ∈ cut names (some c) skip r) :
        d.name ∈ names ∧ ∃ u v, c :: r = u ++ v ∧ Begins d (u.getLast?.or left) v := by
      obtain ⟨hmem, u, v, rfl, hd⟩ := ih h
      refine ⟨hmem, c :: u, v, rfl, ?_⟩
      rwa [getLast?_cons_or]
    cases skip with
    | succ skip => exact later h
    | zero =>
      rw [cut] at h
      cases hd : declarationAt? names left (c :: r) with
      | none =>
        rw [hd] at h
        rcases List.mem_cons.1 h with h | h
        · cases h
        · exact later h
      | some d' =>
        rw [hd] at h
        rcases List.mem_cons.1 h with h | h
        · cases h
          obtain ⟨hmem, hbegins⟩ := declarationAt?_eq_some hd
          exact ⟨hmem, [], c :: r, rfl, hbegins⟩
        · exact later h

/-- No declaration begins in a stretch, with a character to the left of it, when `rest` follows. -/
inductive Quiet (names : List (List Char)) (rest : List Char) : Option Char → List Char → Prop
  | nil {left : Option Char} : Quiet names rest left []
  | cons {left : Option Char} {c : Char} {stretch : List Char}
      (here : ∀ d, d.name ∈ names → ¬ Begins d left (c :: stretch ++ rest))
      (later : Quiet names rest (some c) stretch) : Quiet names rest left (c :: stretch)

theorem quiet_cons {c : Char} {a : List Char} : Quiet names rest left (c :: a) ↔
    (∀ d, d.name ∈ names → ¬ Begins d left (c :: a ++ rest)) ∧ Quiet names rest (some c) a := by
  constructor
  · rintro (_ | ⟨here, later⟩)
    exact ⟨here, later⟩
  · rintro ⟨here, later⟩
    exact .cons here later

theorem quiet_append {a b : List Char} : Quiet names rest left (a ++ b) ↔
    Quiet names (b ++ rest) left a ∧ Quiet names rest (a.getLast?.or left) b := by
  induction a generalizing left with
  | nil => simp [Quiet.nil]
  | cons c a ih =>
    simp only [List.cons_append, quiet_cons, ih, getLast?_cons_or, List.append_assoc, and_assoc]

theorem quiet_of_forall {a : List Char}
    (h : ∀ u v, a = u ++ v → v ≠ [] → ∀ d, d.name ∈ names →
      ¬ Begins d (u.getLast?.or left) (v ++ rest)) : Quiet names rest left a := by
  induction a generalizing left with
  | nil => exact .nil
  | cons c a ih =>
    refine .cons (h [] (c :: a) rfl (by simp)) (ih fun u v huv hv d hd => ?_)
    have := h (c :: u) v (by simp [huv]) hv d hd
    rwa [getLast?_cons_or] at this

theorem Quiet.not_begins {a b : List Char} (h : Quiet names rest left (a ++ b)) (hb : b ≠ [])
    (hd : d.name ∈ names) : ¬ Begins d (a.getLast?.or left) (b ++ rest) := by
  have hquiet := (quiet_append.1 h).2
  cases b with
  | nil => exact absurd rfl hb
  | cons c b => exact (quiet_cons.1 hquiet).1 d hd

theorem Quiet.not_declares (h : Quiet names [] none text) {name : List Char}
    (hname : name ∈ names) : ¬ Declares name text := by
  rintro ⟨d, a, b, rfl, hbegins, rfl⟩
  refine h.not_begins ?_ hname (by simpa using hbegins)
  rintro rfl
  obtain ⟨keyword, blanks, after, -, -, -, -, htext, -⟩ := hbegins.parts
  exact hbegins.text_ne_nil (List.append_eq_nil_iff.1 htext.symm).1

/-- What is left of a text when its pieces are released, where `freed` are the names that have lost
their leads before. -/
def pass (names freed : List (List Char)) (left : Option Char) (text : List Char) : List Char :=
  release freed (cut names left 0 text)

theorem Quiet.pass_eq {a : List Char} (h : Quiet names rest left a) :
    pass names freed left (a ++ rest) = a ++ pass names freed (a.getLast?.or left) rest := by
  induction h with
  | nil => rfl
  | @cons left c stretch here _ ih =>
    have hnone : declarationAt? names left (c :: (stretch ++ rest)) = none := by
      cases hd : declarationAt? names left (c :: (stretch ++ rest)) with
      | none => rfl
      | some d =>
        obtain ⟨hmem, hbegins⟩ := declarationAt?_eq_some hd
        exact absurd hbegins (here d hmem)
    rw [pass] at ih ⊢
    rw [List.cons_append, cut, hnone, release, ih, getLast?_cons_or, List.cons_append]

theorem Begins.pass_eq (h : Begins d left (d.text ++ rest))
    (hnames : ∀ name ∈ names, IsLetterName name) (hmem : d.name ∈ names) (hnew : d.name ∉ freed) :
    pass names freed left (d.text ++ rest) =
      d.name ++ pass names (d.name :: freed) d.text.getLast? rest := by
  have hfreed : freed.contains d.name = false := by simpa using hnew
  rw [pass, h.cut_eq hnames hmem, release, hfreed]
  rfl

theorem release_of_freed {pieces : List Piece}
    (h : ∀ d, .declaration d ∈ pieces → d.name ∈ freed) :
    release freed pieces = pieces.flatMap Piece.text := by
  induction pieces with
  | nil => rfl
  | cons p r ih =>
    have htail := ih fun d hd => h d (List.mem_cons_of_mem p hd)
    cases p with
    | char c => simp [release, Piece.text, htail]
    | declaration d =>
      have hfreed : freed.contains d.name = true := by simpa using h d (by simp)
      rw [release, hfreed, if_pos rfl, htail]
      rfl

theorem pass_of_freed (h : ∀ d, .declaration d ∈ cut names left 0 text → d.name ∈ freed) :
    pass names freed left text = text := by
  rw [pass, release_of_freed h, flatMap_text_cut, List.drop_zero]

end Cutting

section Stretches

variable {names : List (List Char)} {left : Option Char} {rest : List Char}

theorem quiet_marks {a : List Char} (ha : ∀ c ∈ a, isLetter c = false) :
    Quiet names rest left a := by
  induction a generalizing left with
  | nil => exact .nil
  | cons c a ih =>
    refine .cons (fun d _ h => ?_) (ih fun x hx => ha x (List.mem_cons_of_mem c hx))
    have hc : isLetter c = false := ha c (by simp)
    have hword := h.word.1
    rw [List.cons_append, List.takeWhile_cons_of_neg (by simp [hc])] at hword
    exact absurd hword (by decide)

theorem quiet_of_hidden {w : List Char} (hw : ∀ c ∈ w, isLetter c = true)
    (hleft : left.any hidesKeyword = true) : Quiet names rest left w := by
  induction w generalizing left with
  | nil => exact .nil
  | cons c w ih =>
    refine .cons (fun d _ h => ?_) (ih (fun c hc => hw c (List.mem_cons_of_mem _ hc)) ?_)
    · rw [h.unhidden] at hleft
      cases hleft
    · exact hidesKeyword_of_isLetter (hw c (by simp))

theorem quiet_word {w : List Char} (hw : ∀ c ∈ w, isLetter c = true) (hkeyword : w ∉ keywords)
    (hrest : rest.head?.any isLetter = false) : Quiet names rest left w := by
  cases w with
  | nil => exact .nil
  | cons c w =>
    refine .cons (fun d _ h => ?_) (quiet_of_hidden (fun c hc => hw c (List.mem_cons_of_mem _ hc)) ?_)
    · have hword := h.word.1
      rw [takeWhile_span hw hrest] at hword
      exact hkeyword hword
    · exact hidesKeyword_of_isLetter (hw c (by simp))

theorem head?_dropWhile_visible {q : List Char} (hq : ∀ c ∈ q, isBlank c = false) {c : Char}
    (hletter : isLetter c = false) (hblank : isBlank c = false) :
    ((q ++ c :: rest).dropWhile isLetter).head?.any isBlank = false := by
  induction q with
  | nil => simp [hletter, hblank]
  | cons x q ih =>
    rw [List.cons_append, List.dropWhile_cons]
    split
    · exact ih fun y hy => hq y (List.mem_cons_of_mem x hy)
    · simpa using hq x (by simp)

theorem quiet_visible {q : List Char} (hq : ∀ c ∈ q, isBlank c = false) {c : Char}
    (hletter : isLetter c = false) (hblank : isBlank c = false) :
    Quiet names rest left (q ++ [c]) := by
  induction q generalizing left with
  | nil => exact quiet_marks (by simpa using hletter)
  | cons x q ih =>
    refine .cons (fun d _ h => ?_) (ih fun y hy => hq y (List.mem_cons_of_mem x hy))
    have hsplit : x :: q.append [c] ++ rest = (x :: q) ++ c :: rest := by simp
    have hafter := h.word.2
    rw [hsplit, head?_dropWhile_visible hq hletter hblank] at hafter
    cases hafter

theorem quiet_forward (hnames : ∀ name ∈ names, IsLetterName name) {id : List Char}
    (hid : IsLetterName id) (hkeyword : id ∉ keywords) :
    Quiet names rest left ("var ".toList ++ id ++ [';']) := by
  have hsemi : (';' :: rest).head?.any isLetter = false := rfl
  have hletters : ∀ c ∈ "ar".toList, isLetter c = true := by decide
  have hsplit : "var ".toList ++ id ++ [';'] =
      ['v'] ++ ("ar".toList ++ ([' '] ++ (id ++ [';']))) := by simp
  rw [hsplit, quiet_append, quiet_append, quiet_append, quiet_append]
  refine ⟨.cons (fun d hd h => ?_) .nil, quiet_of_hidden hletters rfl, quiet_marks (by decide),
    quiet_word hid.letters hkeyword hsemi, quiet_marks (by decide)⟩
  have hparts : ['v'] ++ ("ar".toList ++ ([' '] ++ (id ++ [';'])) ++ rest) =
      "var".toList ++ ([' '] ++ (id ++ (';' :: rest))) := by simp
  obtain ⟨-, hends⟩ := Begins.eq_of_parts (hparts ▸ h) (hnames _ hd) (by decide) (by simp)
    (by decide) hid hsemi
  cases hends

theorem assigns_iff {text : List Char} : assigns text = true ↔
    ∃ after, Text.dropBlanks text = '=' :: after ∧ after.head? ≠ some '=' := by
  unfold assigns
  constructor
  · intro h
    split at h
    · cases h
    · rename_i after hnot heq
      refine ⟨after, heq, fun hhead => ?_⟩
      cases after with
      | nil => cases hhead
      | cons c r =>
        obtain rfl := Option.some.inj hhead
        exact hnot r rfl
    · cases h
  · rintro ⟨after, heq, hhead⟩
    rw [heq]
    split
    · rename_i r h
      cases h
      exact absurd rfl hhead
    · rfl
    · rename_i hnot
      exact absurd rfl (hnot after)

theorem endsName_of_append {a : List Char} (h : endsName (a ++ rest) = true)
    (hrest : rest.head?.any isLetter = true) : endsName a = true := by
  obtain ⟨c, hc, hletter⟩ := Option.any_eq_true _ _ |>.1 hrest
  rw [endsName, Bool.and_eq_true, Bool.not_eq_true', assigns_iff] at h
  obtain ⟨hhead, after, hdrop, hafter⟩ := h
  rw [Text.dropBlanks, List.dropWhile_append] at hdrop
  rcases hstop : a.dropWhile isBlank with _ | ⟨x, w⟩
  · -- the equals sign would come after `a`
    rw [hstop, List.isEmpty_nil, if_pos rfl] at hdrop
    cases rest with
    | nil => cases hc
    | cons y r =>
      obtain rfl := Option.some.inj hc
      rw [List.dropWhile_cons_of_neg (by simp [isBlank_of_isLetter hletter])] at hdrop
      obtain ⟨rfl, -⟩ := List.cons.inj hdrop
      exact absurd hletter (by decide)
  · rw [hstop, List.isEmpty_cons, if_neg Bool.false_ne_true] at hdrop
    obtain ⟨rfl, rfl⟩ := List.cons.inj hdrop
    rw [endsName, Bool.and_eq_true, Bool.not_eq_true', assigns_iff]
    refine ⟨?_, w, hstop, fun hw => hafter ?_⟩
    · cases a with
      | nil => rfl
      | cons x a => exact hhead
    · change (w ++ rest).head? = some '='
      rw [List.head?_append, hw]
      rfl

theorem getLast?_any_append {u v : List Char} (hne : v ≠ []) (hv : ∀ c ∈ v, isLetter c = true) :
    (u ++ v).getLast?.any isLetter = true := by
  rw [List.getLast?_append, List.getLast?_eq_some_getLast hne]
  exact hv _ (List.getLast_mem hne)

/-- A declaration that begins ahead of a place where no word goes on ends ahead of it too, when the
text from there on begins with a word that is another name. -/
theorem Begins.of_append {d : Declaration} {a : List Char} (h : Begins d left (a ++ rest))
    (hd : IsLetterName d.name) (hne : a ≠ []) (hlast : a.getLast?.any isLetter = false)
    (hrest : rest.head?.any isLetter = true) (hword : rest.takeWhile isLetter ≠ d.name) :
    Begins d left a := by
  have inWord {u v : List Char} (ha : a = u ++ v) (hv : v ≠ [])
      (hletters : ∀ c ∈ v, isLetter c = true) : False := by
    rw [ha, getLast?_any_append hv hletters] at hlast
    cases hlast
  obtain ⟨keyword, blanks, after, hkeyword, hbne, hblanks, hlead, htext, hends⟩ := h.parts
  have atName (hname : rest = d.name ++ after) : False := by
    rw [hname, takeWhile_span hd.letters (endsName_head hends)] at hword
    exact hword rfl
  rcases List.append_eq_append_iff.1 htext with ⟨t, hsplit, hafter⟩ | ⟨a', rfl, rfl⟩
  · exfalso
    have hparts : d.lead ++ d.name = a ++ t := hsplit
    rcases List.append_eq_append_iff.1 hparts with ⟨b, rfl, hname⟩ | ⟨b, hinner, rfl⟩
    · -- the place is at the name or inside it
      cases b with
      | nil => exact atName (by rw [hname, hafter, List.nil_append])
      | cons c b =>
        refine inWord rfl (List.cons_ne_nil c b) fun x hx => hd.letters x ?_
        rw [hname]
        exact List.mem_append_left t hx
    · rw [hlead] at hinner
      rcases List.append_eq_append_iff.1 hinner with ⟨u, rfl, hblank⟩ | ⟨u, rfl, -⟩
      · -- the place is among the blanks or behind them
        cases b with
        | nil => exact atName (by rw [hafter, List.nil_append])
        | cons c b =>
          have hc : isBlank c = true := hblanks c (by simp [hblank])
          simp [hafter, not_isLetter_of_isBlank hc] at hrest
      · -- the place is inside the keyword
        refine inWord (List.nil_append a).symm hne fun x hx => ?_
        exact isLetter_of_mem_keyword hkeyword x (List.mem_append_left u hx)
  · exact ⟨h.unhidden, keyword, blanks, a', hkeyword, hbne, hblanks, hlead, rfl,
      endsName_of_append hends hrest⟩

theorem Begins.declares {d : Declaration} {u v : List Char}
    (h : Begins d (u.getLast?.or left) v) : Declares d.name (u ++ v) := by
  refine ⟨d, u, v, rfl, ⟨?_, h.parts⟩, rfl⟩
  have hunhidden := h.unhidden
  cases hu : u.getLast? with
  | none => rfl
  | some c =>
    rw [hu] at hunhidden
    exact hunhidden

theorem quiet_of_not_declares (hnames : ∀ name ∈ names, IsLetterName name) {a : List Char}
    (hend : a.getLast?.any hidesKeyword = false) (hdeclares : ∀ name ∈ names, ¬ Declares name a)
    (hrest : rest.head?.any isLetter = true) (hword : rest.takeWhile isLetter ∉ names) :
    Quiet names rest left a := by
  refine quiet_of_forall fun u v huv hv d hd h => hdeclares d.name hd ?_
  have hlast : v.getLast?.any isLetter = false := by
    rw [huv, List.getLast?_append, List.getLast?_eq_some_getLast hv] at hend
    rw [List.getLast?_eq_some_getLast hv]
    cases hl : isLetter (v.getLast hv) with
    | false => exact hl
    | true =>
      have hhides := hidesKeyword_of_isLetter hl
      simp [hhides] at hend
  have hne : rest.takeWhile isLetter ≠ d.name := fun he => hword (he ▸ hd)
  rw [huv]
  exact (h.of_append (hnames _ hd) hv hlast hrest hne).declares

theorem pass_of_declares {freed : List (List Char)} {text : List Char}
    (h : ∀ name ∈ names, Declares name text → name ∈ freed) :
    pass names freed left text = text := by
  refine pass_of_freed fun d hd => ?_
  obtain ⟨hmem, u, v, rfl, hbegins⟩ := mem_cut hd
  exact h d.name hmem hbegins.declares

theorem not_declares_of_cut (hnames : ∀ name ∈ names, IsLetterName name) {text : List Char}
    (hcut : cut names none 0 text = text.map .char) : ∀ name ∈ names, ¬ Declares name text := by
  have quiet (left : Option Char) (text : List Char)
      (hcut : cut names left 0 text = text.map .char) : Quiet names [] left text := by
    induction text generalizing left with
    | nil => exact .nil
    | cons c r ih =>
      rw [cut] at hcut
      cases hd : declarationAt? names left (c :: r) with
      | some d =>
        rw [hd] at hcut
        cases hcut
      | none =>
        rw [hd] at hcut
        refine .cons (fun d hmem h => ?_) (ih (some c) (List.cons.inj hcut).2)
        rw [List.append_nil] at h
        rw [h.declarationAt?_eq hnames hmem] at hd
        cases hd
  exact fun name hname => (quiet none text hcut).not_declares hname

end Stretches

end ExportBundle.Export.Scope
