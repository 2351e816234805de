import ExportBundle.Proofs.Export.Assembly

/-! Freeing the names of a tree in one pass, and freeing them one after the other. A rewrite for one
name leaves every declaration of another name where it is: it makes none, destroys none and changes
nothing between a keyword and its equals sign. Main statement: the one pass gives what the rewrites
for the single names give, in whatever order they come. -/

namespace ExportBundle.Export.Scope

open Identifier (isLetter IsSafeName)
open Text (isBlank)

/-- The `result` is the text without the lead of the first declaration of the name, or the text
itself where the name is not declared. -/
inductive FreesFirst (name text : List Char) : List Char → Prop
  | first {d : Declaration} {before after : List Char} (split : text = before ++ (d.text ++ after))
      (begins : Begins d before.getLast? (d.text ++ after)) (named : d.name = name)
      (quiet : Quiet [name] (d.text ++ after) none before) :
      FreesFirst name text (before ++ (name ++ after))
  | absent (undeclared : ¬ Declares name text) : FreesFirst name text text

/-- The names are freed one after the other, each in the text that the ones before it have left. -/
inductive FreesEach : List (List Char) → List Char → List Char → Prop
  | nil {text : List Char} : FreesEach [] text text
  | cons {name : List Char} {names : List (List Char)} {text next result : List Char}
      (first : FreesFirst name text next) (later : FreesEach names next result) :
      FreesEach (name :: names) text result

/-- A name made of letters that is no keyword of a declaration. -/
structure IsBindingName (name : List Char) : Prop extends IsLetterName name where
  free : name ∉ keywords

def without (name : List Char) (names : List (List Char)) : List (List Char) :=
  names.filter (· ≠ name)

section Names

variable {names : List (List Char)} {name : List Char}

theorem mem_without {n : List Char} : n ∈ without name names ↔ n ∈ names ∧ n ≠ name := by
  simp [without]

theorem without_cons_self (h : name ∉ names) : without name (name :: names) = names := by
  have hall : ∀ n ∈ names, decide (n ≠ name) = true := by
    intro n hn
    rw [decide_eq_true_eq]
    rintro rfl
    exact h hn
  rw [without, List.filter_cons_of_neg (by simp), List.filter_eq_self.2 hall]

theorem letterNames_without (h : ∀ n ∈ names, IsBindingName n) :
    ∀ n ∈ without name names, IsBindingName n := fun n hn => h n (mem_without.1 hn).1

end Names

/-! Scanning a text -/

section Scanning

variable {names : List (List Char)}

/-- A text is nothing, or goes on after a character where none of the names is declared, or after a
declaration of one of them. -/
@[elab_as_elim]
theorem scan_induction (names : List (List Char)) {motive : Option Char → List Char → Prop}
    (nil : ∀ left, motive left [])
    (char : ∀ left c rest, (∀ d, d.name ∈ names → ¬ Begins d left (c :: rest)) →
      motive (some c) rest → motive left (c :: rest))
    (declaration : ∀ left d rest, d.name ∈ names → Begins d left (d.text ++ rest) →
      motive d.text.getLast? rest → motive left (d.text ++ rest)) :
    ∀ left text, motive left text := by
  intro left text
  induction hn : text.length using Nat.strongRecOn generalizing left text with
  | ind n ih =>
    subst hn
    cases text with
    | nil => exact nil left
    | cons c r =>
      by_cases h : ∃ d, d.name ∈ names ∧ Begins d left (c :: r)
      · obtain ⟨d, hd, hbegins⟩ := h
        obtain ⟨_, _, rest, _, _, _, _, htext, _⟩ := hbegins.parts
        rw [htext] at hbegins ih ⊢
        have hpos : 0 < d.text.length := List.length_pos_iff.2 hbegins.text_ne_nil
        refine declaration left d rest hd hbegins (ih rest.length ?_ _ rest rfl)
        rw [List.length_append]
        omega
      · have hnone : ∀ d, d.name ∈ names → ¬ Begins d left (c :: r) :=
          fun d hd hbegins => h ⟨d, hd, hbegins⟩
        exact char left c r hnone (ih r.length (by simp) _ r rfl)

theorem getLast?_append_or (a b : List Char) (left : Option Char) :
    (a ++ b).getLast?.or left = b.getLast?.or (a.getLast?.or left) := by
  rw [List.getLast?_append, Option.or_assoc]

theorem getLast?_or_of_ne {a : List Char} (h : a ≠ []) (left : Option Char) :
    a.getLast?.or left = a.getLast? := by
  rw [List.getLast?_eq_some_getLast h, Option.some_or]

theorem pass_char {freed : List (List Char)} {left : Option Char} {c : Char} {rest : List Char}
    (h : ∀ d, d.name ∈ names → ¬ Begins d left (c :: rest)) :
    pass names freed left (c :: rest) = c :: pass names freed (some c) rest :=
  Quiet.pass_eq (.cons h .nil)

theorem Begins.pass_eq_of_freed {freed : List (List Char)} {left : Option Char} {d : Declaration}
    {rest : List Char} (h : Begins d left (d.text ++ rest))
    (hnames : ∀ n ∈ names, IsLetterName n) (hmem : d.name ∈ names) (hfreed : d.name ∈ freed) :
    pass names freed left (d.text ++ rest) = d.text ++ pass names freed d.text.getLast? rest := by
  have hcontains : freed.contains d.name = true := by simpa using hfreed
  rw [pass, h.cut_eq hnames hmem, release, hcontains]
  rfl

theorem declarationAt?_congr {names' : List (List Char)} (hnames : ∀ n ∈ names, IsLetterName n)
    (h : ∀ n, n ∈ names ↔ n ∈ names') (left : Option Char) (text : List Char) :
    declarationAt? names left text = declarationAt? names' left text := by
  have hnames' : ∀ n ∈ names', IsLetterName n := fun n hn => hnames n ((h n).2 hn)
  cases hd : declarationAt? names left text with
  | some d =>
    obtain ⟨hmem, hbegins⟩ := declarationAt?_eq_some hd
    exact (hbegins.declarationAt?_eq hnames' ((h _).1 hmem)).symm
  | none =>
    cases hd' : declarationAt? names' left text with
    | none => rfl
    | some d =>
      obtain ⟨hmem, hbegins⟩ := declarationAt?_eq_some hd'
      rw [hbegins.declarationAt?_eq hnames ((h _).2 hmem)] at hd
      cases hd

theorem cut_congr {names' : List (List Char)} (hnames : ∀ n ∈ names, IsLetterName n)
    (h : ∀ n, n ∈ names ↔ n ∈ names') (left : Option Char) (skip : Nat) (text : List Char) :
    cut names left skip text = cut names' left skip text := by
  induction text generalizing left skip with
  | nil => rfl
  | cons c r ih =>
    cases skip with
    | succ skip => exact ih (some c) skip
    | zero =>
      rw [cut, cut, declarationAt?_congr hnames h]
      cases declarationAt? names' left (c :: r) with
      | none => exact congrArg _ (ih (some c) 0)
      | some d => exact congrArg _ (ih (some c) (d.text.length - 1))

theorem pass_congr {names' : List (List Char)} (hnames : ∀ n ∈ names, IsLetterName n)
    (h : ∀ n, n ∈ names ↔ n ∈ names') (freed : List (List Char)) (left : Option Char)
    (text : List Char) : pass names freed left text = pass names' freed left text := by
  rw [pass, pass, cut_congr hnames h]

theorem release_congr {freed freed' : List (List Char)} {pieces : List Piece}
    (h : ∀ d, .declaration d ∈ pieces → (d.name ∈ freed ↔ d.name ∈ freed')) :
    release freed pieces = release freed' pieces := by
  induction pieces generalizing freed freed' with
  | nil => rfl
  | cons p r ih =>
    have hrest := fun d hd => h d (List.mem_cons_of_mem p hd)
    cases p with
    | char c => rw [release, release, ih hrest]
    | declaration d =>
      have hd : freed.contains d.name = freed'.contains d.name := by
        rw [Bool.eq_iff_iff, List.contains_iff_mem, List.contains_iff_mem]
        exact h d List.mem_cons_self
      have hmore : ∀ e, .declaration e ∈ r → (e.name ∈ d.name :: freed ↔ e.name ∈ d.name :: freed') :=
        fun e he => by rw [List.mem_cons, List.mem_cons, hrest e he]
      rw [release, release, hd, ih hrest, ih hmore]

theorem pass_congr_freed {freed freed' : List (List Char)}
    (h : ∀ n ∈ names, (n ∈ freed ↔ n ∈ freed')) (left : Option Char) (text : List Char) :
    pass names freed left text = pass names freed' left text :=
  release_congr fun d hd => h d.name (mem_cut hd).1

end Scanning

/-! What a rewrite leaves alone -/

section Separation

variable {names : List (List Char)} {left : Option Char} {rest : List Char} {d e : Declaration}

theorem Begins.quiet (h : Begins d left (d.text ++ rest)) (hname : IsBindingName d.name)
    (hnames : ∀ n ∈ names, IsLetterName n) (hother : d.name ∉ names) :
    Quiet names rest left d.text := by
  obtain ⟨keyword, blanks, rest', hkeyword, hne, hblanks, hlead, htext, hends⟩ := h.parts
  obtain rfl := List.append_cancel_left htext
  have hletters := isLetter_of_mem_keyword hkeyword
  have hstop := endsName_head hends
  cases keyword with
  | nil => exact absurd hkeyword (by decide)
  | cons c w =>
    have hw : ∀ x ∈ w, isLetter x = true := fun x hx => hletters x (List.mem_cons_of_mem c hx)
    have hc : hidesKeyword c = true := hidesKeyword_of_isLetter (hletters c List.mem_cons_self)
    have hsplit : d.text = [c] ++ (w ++ (blanks ++ d.name)) := by simp [Declaration.text, hlead]
    rw [hsplit, quiet_append, quiet_append, quiet_append]
    refine ⟨.cons (fun e he hbegins => ?_) .nil, quiet_of_hidden hw hc,
      quiet_marks fun x hx => not_isLetter_of_isBlank (hblanks x hx),
      quiet_word hname.letters hname.free hstop⟩
    have hparts : [c] ++ ((w ++ (blanks ++ d.name)) ++ rest) =
        (c :: w) ++ (blanks ++ (d.name ++ rest)) := by simp
    obtain ⟨rfl, -⟩ := Begins.eq_of_parts (hparts ▸ hbegins) (hnames _ he) hkeyword hne hblanks
      hname.toIsLetterName hstop
    exact hother he

theorem endsName_append {a : List Char} (h : endsName a = true)
    (hrest : rest.head?.any isLetter = true) : endsName (a ++ rest) = true := by
  rw [endsName, Bool.and_eq_true, Bool.not_eq_true', assigns_iff] at h ⊢
  obtain ⟨hhead, after, hdrop, hafter⟩ := h
  have hne : a ≠ [] := by
    rintro rfl
    cases hdrop
  refine ⟨?_, after ++ rest, ?_, ?_⟩
  · rwa [List.head?_append_of_ne_nil a hne]
  · rw [Text.dropBlanks] at hdrop ⊢
    rw [List.dropWhile_append, hdrop]
    rfl
  · cases after with
    | cons c r => exact hafter
    | nil =>
      intro hequals
      rw [List.nil_append] at hequals
      rw [hequals] at hrest
      exact absurd hrest (by decide)

theorem Begins.append {a : List Char} (h : Begins d left a)
    (hrest : rest.head?.any isLetter = true) : Begins d left (a ++ rest) := by
  obtain ⟨keyword, blanks, after, hkeyword, hne, hblanks, hlead, rfl, hends⟩ := h.parts
  exact ⟨h.unhidden, keyword, blanks, after ++ rest, hkeyword, hne, hblanks, hlead, by simp,
    endsName_append hends hrest⟩

theorem head?_append_word {w : List Char} (hne : w ≠ []) (hw : ∀ c ∈ w, isLetter c = true)
    (rest : List Char) : (w ++ rest).head?.any isLetter = true := by
  cases w with
  | nil => exact absurd rfl hne
  | cons c w => exact hw c List.mem_cons_self

theorem Begins.head_letter (h : Begins d left rest) : rest.head?.any isLetter = true := by
  obtain ⟨keyword, blanks, after, hkeyword, -, -, hlead, rfl, -⟩ := h.parts
  have hsplit : d.text ++ after = keyword ++ (blanks ++ d.name ++ after) := by
    simp [Declaration.text, hlead]
  rw [hsplit]
  refine head?_append_word ?_ (isLetter_of_mem_keyword hkeyword) _
  rintro rfl
  exact absurd hkeyword (by decide)

theorem Begins.head_rest (h : Begins d left (d.text ++ rest)) :
    rest.head?.any isLetter = false := by
  obtain ⟨_, _, rest', _, _, _, _, htext, hends⟩ := h.parts
  obtain rfl := List.append_cancel_left htext
  exact endsName_head hends

theorem Begins.last_before {a text : List Char} (hne : a ≠ [])
    (h : Begins d (a.getLast?.or left) text) : a.getLast?.any isLetter = false := by
  have hunhidden := h.unhidden
  rw [getLast?_or_of_ne hne, List.getLast?_eq_some_getLast hne] at hunhidden
  rw [List.getLast?_eq_some_getLast hne]
  cases hc : isLetter (a.getLast hne) with
  | false => exact hc
  | true =>
    have hhides := hidesKeyword_of_isLetter hc
    simp [hhides] at hunhidden

/-- Ahead of a declaration other names are declared in the text up to there, whether the declaration
has its lead or not. -/
theorem Begins.ahead_iff {a : List Char} (h : Begins d (a.getLast?.or left) (d.text ++ rest))
    (hd : IsBindingName d.name) (he : IsBindingName e.name) (hother : e.name ≠ d.name)
    (hne : a ≠ []) : (Begins e left (a ++ (d.text ++ rest)) ↔ Begins e left a) ∧
      (Begins e left (a ++ (d.name ++ rest)) ↔ Begins e left a) := by
  have hlast := h.last_before hne
  have hkeyword : (d.text ++ rest).takeWhile isLetter ≠ e.name := fun hw => he.free (hw ▸ h.word.1)
  have hname : (d.name ++ rest).takeWhile isLetter ≠ e.name := by
    rw [takeWhile_span hd.letters h.head_rest]
    exact hother.symm
  have hletter := head?_append_word hd.ne hd.letters rest
  exact ⟨⟨fun hb => hb.of_append he.toIsLetterName hne hlast h.head_letter hkeyword,
      fun hb => hb.append h.head_letter⟩,
    fun hb => hb.of_append he.toIsLetterName hne hlast hletter hname, fun hb => hb.append hletter⟩

end Separation

/-! One name less -/

section Peeling

variable {names freed : List (List Char)} {d e : Declaration} {name : List Char}

theorem pass_past {names' : List (List Char)} (hnames : ∀ n ∈ names, IsLetterName n)
    (hnames' : ∀ n ∈ names', IsLetterName n) (he : e.name ∈ names) (he' : e.name ∈ names')
    {left : Option Char} {rest rest' : List Char} (h : Begins e left (e.text ++ rest))
    (h' : Begins e left (e.text ++ rest'))
    (later : ∀ more, more = freed ∨ more = e.name :: freed →
      pass names more e.text.getLast? rest = pass names' more e.text.getLast? rest') :
    pass names freed left (e.text ++ rest) = pass names' freed left (e.text ++ rest') := by
  by_cases hfreed : e.name ∈ freed
  · rw [h.pass_eq_of_freed hnames he hfreed, h'.pass_eq_of_freed hnames' he' hfreed,
      later freed (.inl rfl)]
  · rw [h.pass_eq hnames he hfreed, h'.pass_eq hnames' he' hfreed, later _ (.inr rfl)]

theorem pass_without (hnames : ∀ n ∈ names, IsBindingName n) {left : Option Char}
    {text : List Char} (h : name ∈ freed ∨ Quiet [name] [] left text) :
    pass names freed left text = pass (without name names) freed left text := by
  have hletters : ∀ n ∈ names, IsLetterName n := fun n hn => (hnames n hn).toIsLetterName
  have hless : ∀ n ∈ without name names, IsLetterName n :=
    fun n hn => (letterNames_without hnames n hn).toIsLetterName
  induction left, text using scan_induction names generalizing freed with
  | nil left => rfl
  | char left c rest hnone ih =>
    have hnone' : ∀ d, d.name ∈ without name names → ¬ Begins d left (c :: rest) :=
      fun d hd => hnone d (mem_without.1 hd).1
    rw [pass_char hnone, pass_char hnone', ih (h.imp_right fun hq => (quiet_cons.1 hq).2)]
  | declaration left d rest hd hbegins ih =>
    have hrest : name ∈ freed ∨ Quiet [name] [] d.text.getLast? rest := by
      refine h.imp_right fun hq => ?_
      rw [← getLast?_or_of_ne hbegins.text_ne_nil left]
      exact (quiet_append.1 hq).2
    by_cases hname : d.name = name
    · have hfreed : name ∈ freed := by
        refine h.resolve_right fun hq => ?_
        rw [← List.nil_append (d.text ++ rest)] at hq
        refine hq.not_begins (by simp [hbegins.text_ne_nil]) (List.mem_singleton.2 hname) ?_
        simpa using hbegins
      subst hname
      have hother : d.name ∉ without d.name names := fun hm => (mem_without.1 hm).2 rfl
      rw [hbegins.pass_eq_of_freed hletters hd hfreed,
        (hbegins.quiet (hnames _ hd) hless hother).pass_eq,
        getLast?_or_of_ne hbegins.text_ne_nil, ih (.inl hfreed)]
    · have hd' : d.name ∈ without name names := mem_without.2 ⟨hd, hname⟩
      refine pass_past hletters hless hd hd' hbegins hbegins ?_
      rintro more (rfl | rfl)
      · exact ih hrest
      · exact ih (hrest.imp_left (List.mem_cons_of_mem _))

theorem Begins.pass_peel (hnames : ∀ n ∈ names, IsBindingName n) {left : Option Char}
    {rest : List Char} (h : Begins d left (d.text ++ rest)) (hmem : d.name ∈ names)
    (hnew : d.name ∉ freed) : pass names freed left (d.text ++ rest) =
      pass (without d.name names) freed left (d.name ++ rest) := by
  have hletters : ∀ n ∈ names, IsLetterName n := fun n hn => (hnames n hn).toIsLetterName
  have hd : IsBindingName d.name := hnames _ hmem
  have hlast : d.text.getLast? = d.name.getLast?.or left := by
    rw [Declaration.text, getLast?_or_of_ne hd.ne, List.getLast?_append,
      getLast?_or_of_ne hd.ne]
  have hquiet : Quiet (without d.name names) rest left d.name :=
    quiet_word hd.letters hd.free h.head_rest
  rw [h.pass_eq hletters hmem hnew, pass_without hnames (.inl List.mem_cons_self), hlast,
    hquiet.pass_eq]
  refine congrArg _ (pass_congr_freed (fun n hn => ?_) _ _)
  have hne := (mem_without.1 hn).2
  rw [List.mem_cons, or_iff_right hne]

theorem pass_peel (hnames : ∀ n ∈ names, IsBindingName n) {left : Option Char}
    {a rest : List Char} (hmem : d.name ∈ names) (hnew : d.name ∉ freed)
    (hbegins : Begins d (a.getLast?.or left) (d.text ++ rest))
    (hquiet : Quiet [d.name] (d.text ++ rest) left a) :
    pass names freed left (a ++ (d.text ++ rest)) =
      pass (without d.name names) freed left (a ++ (d.name ++ rest)) := by
  have hletters : ∀ n ∈ names, IsLetterName n := fun n hn => (hnames n hn).toIsLetterName
  have hless : ∀ n ∈ without d.name names, IsLetterName n :=
    fun n hn => (letterNames_without hnames n hn).toIsLetterName
  obtain ⟨text, htext⟩ : ∃ text, text = a ++ (d.text ++ rest) := ⟨_, rfl⟩
  rw [← htext]
  induction left, text using scan_induction names generalizing a freed with
  | nil left =>
    have hnil := (List.append_eq_nil_iff.1 (List.append_eq_nil_iff.1 htext.symm).2).1
    exact absurd hnil hbegins.text_ne_nil
  | char left c r hnone ih =>
    cases a with
    | nil =>
      rw [htext] at hnone
      exact absurd hbegins (hnone d hmem)
    | cons x a =>
      rw [List.cons_append] at htext
      obtain ⟨rfl, rfl⟩ := List.cons.inj htext
      have hnone' : ∀ e, e.name ∈ without d.name names →
          ¬ Begins e left (c :: a ++ (d.name ++ rest)) := by
        intro e he hbegins'
        obtain ⟨he, hother⟩ := mem_without.1 he
        obtain ⟨hkept, hfreed⟩ :=
          hbegins.ahead_iff (hnames d.name hmem) (hnames e.name he) hother (List.cons_ne_nil c a)
        exact hnone e he (hkept.2 (hfreed.1 hbegins'))
      rw [List.cons_append] at hnone' ⊢
      rw [getLast?_cons_or] at hbegins
      rw [pass_char hnone, pass_char hnone', ih hnew hbegins (quiet_cons.1 hquiet).2 rfl]
  | declaration left e r he hbegins' ih =>
    by_cases hne : a = []
    · subst hne
      rw [List.nil_append] at htext
      rw [htext]
      exact hbegins.pass_peel hnames hmem hnew
    -- The scan meets a declaration of another name first; it stands ahead of both texts or of neither.
    · have hother : e.name ≠ d.name := by
        intro hsame
        rw [← List.nil_append a] at hquiet
        rw [htext] at hbegins'
        exact hquiet.not_begins hne (List.mem_singleton.2 hsame) (by simpa using hbegins')
      obtain ⟨hkept, hfreed⟩ :=
        hbegins.ahead_iff (hnames d.name hmem) (hnames e.name he) hother hne
      have hahead : Begins e left a := hkept.1 (htext ▸ hbegins')
      obtain ⟨-, -, b, -, -, -, -, rfl, -⟩ := hahead.parts
      obtain rfl : r = b ++ (d.text ++ rest) := by
        rw [List.append_assoc] at htext
        exact List.append_cancel_left htext
      have hless' : e.name ∈ without d.name names := mem_without.2 ⟨he, hother⟩
      have hrewritten := hfreed.2 hahead
      have hb : Quiet [d.name] (d.text ++ rest) e.text.getLast? b := by
        rw [← getLast?_or_of_ne hbegins'.text_ne_nil left]
        exact (quiet_append.1 hquiet).2
      rw [getLast?_append_or, getLast?_or_of_ne hbegins'.text_ne_nil left] at hbegins
      rw [List.append_assoc] at hrewritten ⊢
      refine pass_past hletters hless he hless' hbegins' hrewritten ?_
      rintro more (rfl | rfl)
      · exact ih hnew hbegins hb rfl
      · refine ih (fun hm => ?_) hbegins hb rfl
        exact (List.mem_cons.1 hm).elim hother.symm hnew

end Peeling

/-! All names -/

section Each

variable {names : List (List Char)} {name text result : List Char}

theorem quiet_of_not_declared (h : ¬ Declares name text) : Quiet [name] [] none text := by
  refine quiet_of_forall fun u v htext _ d hd hbegins => h ?_
  rw [List.append_nil] at hbegins
  rw [htext, ← List.mem_singleton.1 hd]
  exact hbegins.declares

theorem FreesFirst.pass_eq (h : FreesFirst name text result)
    (hnames : ∀ n ∈ names, IsBindingName n) (hmem : name ∈ names) :
    pass names [] none text = pass (without name names) [] none result := by
  cases h with
  | first split begins named quiet =>
    subst named split
    exact pass_peel hnames hmem List.not_mem_nil (by rwa [Option.or_none]) quiet
  | absent undeclared => exact pass_without hnames (.inr (quiet_of_not_declared undeclared))

theorem FreesEach.eq_pass (h : FreesEach names text result)
    (hnames : ∀ n ∈ names, IsBindingName n) (hnodup : names.Nodup) :
    result = pass names [] none text := by
  induction h with
  | nil => exact (pass_of_declares fun n hn => absurd hn List.not_mem_nil).symm
  | @cons name names text next result first later ih =>
    obtain ⟨hnew, hnodup⟩ := List.nodup_cons.1 hnodup
    rw [first.pass_eq hnames List.mem_cons_self, without_cons_self hnew]
    exact ih (fun n hn => hnames n (List.mem_cons_of_mem name hn)) hnodup

theorem first_declaration (name : List Char) (left : Option Char) (text : List Char) :
    (∃ d before after, text = before ++ (d.text ++ after) ∧
      Begins d (before.getLast?.or left) (d.text ++ after) ∧ d.name = name ∧
      Quiet [name] (d.text ++ after) left before) ∨ Quiet [name] [] left text := by
  induction left, text using scan_induction [name] with
  | nil left => exact .inr .nil
  | char left c rest hnone ih =>
    rcases ih with ⟨d, before, after, rfl, hbegins, hd, hquiet⟩ | hquiet
    · refine .inl ⟨d, c :: before, after, rfl, ?_, hd, .cons hnone hquiet⟩
      rwa [getLast?_cons_or]
    · exact .inr (.cons (by simpa using hnone) hquiet)
  | declaration left d rest hd hbegins ih =>
    exact .inl ⟨d, [], rest, rfl, hbegins, List.mem_singleton.1 hd, .nil⟩

theorem exists_freesFirst (name text : List Char) : ∃ result, FreesFirst name text result := by
  rcases first_declaration name none text with ⟨d, before, after, htext, hbegins, hd, hquiet⟩ | hquiet
  · rw [Option.or_none] at hbegins
    exact ⟨_, .first htext hbegins hd hquiet⟩
  · exact ⟨text, .absent (hquiet.not_declares (List.mem_singleton_self name))⟩

theorem exists_freesEach (names : List (List Char)) (text : List Char) :
    ∃ result, FreesEach names text result := by
  induction names generalizing text with
  | nil => exact ⟨text, .nil⟩
  | cons name names ih =>
    obtain ⟨next, hfirst⟩ := exists_freesFirst name text
    obtain ⟨result, hlater⟩ := ih next
    exact ⟨result, .cons hfirst hlater⟩

theorem freesEach_iff (hnames : ∀ n ∈ names, IsBindingName n) (hnodup : names.Nodup) :
    FreesEach names text result ↔ result = pass names [] none text := by
  refine ⟨fun h => h.eq_pass hnames hnodup, ?_⟩
  rintro rfl
  obtain ⟨result, h⟩ := exists_freesEach names text
  rwa [← h.eq_pass hnames hnodup]

theorem freesEach_append {names' : List (List Char)} : FreesEach (names ++ names') text result ↔
    ∃ next, FreesEach names text next ∧ FreesEach names' next result := by
  induction names generalizing text with
  | nil =>
    refine ⟨fun h => ⟨text, .nil, h⟩, ?_⟩
    rintro ⟨_, ⟨⟩, h⟩
    exact h
  | cons name names ih =>
    constructor
    · rintro (_ | ⟨first, later⟩)
      obtain ⟨next, h, h'⟩ := ih.1 later
      exact ⟨next, .cons first h, h'⟩
    · rintro ⟨next, _ | ⟨first, later⟩, h'⟩
      exact .cons first (ih.2 ⟨next, later, h'⟩)

end Each

/-! Trees -/

section Trees

variable {ids : List String}

theorem toList_free (ids : List String) (source : String) : (free ids source).toList =
    pass (longestFirst (ids.map String.toList)) [] none source.toList := by
  cases ids with
  | nil => exact (pass_of_declares fun n hn => absurd hn List.not_mem_nil).symm
  | cons id ids => exact String.toList_ofList

theorem isBindingName_of_mem (hids : ∀ id ∈ ids, IsSafeName id) :
    ∀ name ∈ ids.map String.toList, IsBindingName name := by
  intro name hname
  obtain ⟨id, hid, rfl⟩ := List.mem_map.1 hname
  exact ⟨isLetterName_toList (hids id hid), toList_notMem_keywords (hids id hid)⟩

theorem freesEach_iff_free (hids : ∀ id ∈ ids, IsSafeName id) (hnodup : ids.Nodup)
    {order : List String} (horder : order.Perm ids) {source result : String} :
    FreesEach (order.map String.toList) source.toList result.toList ↔
      result = free ids source := by
  have hsafe : ∀ id ∈ order, IsSafeName id := fun id hid => hids id (horder.mem_iff.1 hid)
  have hnames := isBindingName_of_mem hsafe
  have hdistinct : (order.map String.toList).Nodup :=
    List.Pairwise.map String.toList (fun a b hne he => hne (String.toList_inj.1 he))
      (horder.nodup_iff.2 hnodup)
  rw [freesEach_iff hnames hdistinct, ← String.toList_inj, toList_free,
    pass_congr (fun n hn => (hnames n hn).toIsLetterName) fun n => ?_]
  simp [longestFirst, horder.mem_iff]

theorem free_append {ids' : List String} (hids : ∀ id ∈ ids ++ ids', IsSafeName id)
    (hnodup : (ids ++ ids').Nodup) (source : String) :
    free (ids ++ ids') source = free ids' (free ids source) := by
  obtain ⟨hleft, hright, -⟩ := List.nodup_append.1 hnodup
  have first : FreesEach (ids.map String.toList) source.toList (free ids source).toList :=
    (freesEach_iff_free (fun id hid => hids id (List.mem_append_left _ hid)) hleft
      (List.Perm.refl _)).2 rfl
  have later : FreesEach (ids'.map String.toList) (free ids source).toList
      (free ids' (free ids source)).toList :=
    (freesEach_iff_free (fun id hid => hids id (List.mem_append_right _ hid)) hright
      (List.Perm.refl _)).2 rfl
  refine ((freesEach_iff_free hids hnodup (List.Perm.refl _)).1 ?_).symm
  rw [List.map_append]
  exact freesEach_append.2 ⟨_, first, later⟩

theorem foldl_free (hids : ∀ id ∈ ids, IsSafeName id) (hnodup : ids.Nodup) (source : String) :
    ids.foldl (fun text id => free [id] text) source = free ids source := by
  induction ids generalizing source with
  | nil => rfl
  | cons id ids ih =>
    have hsplit : id :: ids = [id] ++ ids := rfl
    rw [List.foldl_cons, ih (fun i hi => hids i (List.mem_cons_of_mem id hi))
      (List.nodup_cons.1 hnodup).2, hsplit, free_append hids hnodup]

/-- The names of a tree are freed in one pass as they are freed one after the other, in any order;
so the shape of the tree does not count, and parts of it may be freed apart. -/
theorem free_eq_one_by_one {nodes : List Node} (hnodup : (Node.ids nodes).Nodup)
    (hids : ∀ id ∈ Node.ids nodes, IsSafeName id) (source : String) :
    (∀ order : List String, order.Perm (Node.ids nodes) →
      (∀ result : String, FreesEach (order.map String.toList) source.toList result.toList ↔
        result = free (Node.ids nodes) source) ∧
      order.foldl (fun text id => free [id] text) source = free (Node.ids nodes) source) ∧
      (∀ nodes', (Node.ids nodes').Perm (Node.ids nodes) →
        free (Node.ids nodes') source = free (Node.ids nodes) source) ∧
      ∀ a b, nodes = a ++ b →
        free (Node.ids nodes) source = free (Node.ids b) (free (Node.ids a) source) := by
  have each {order : List String} (horder : order.Perm (Node.ids nodes)) (result : String) :
      FreesEach (order.map String.toList) source.toList result.toList ↔
        result = free (Node.ids nodes) source := freesEach_iff_free hids hnodup horder
  have any {order : List String} (horder : order.Perm (Node.ids nodes)) :
      (∀ id ∈ order, IsSafeName id) ∧ order.Nodup :=
    ⟨fun id hid => hids id (horder.mem_iff.1 hid), horder.nodup_iff.2 hnodup⟩
  have same {order : List String} (horder : order.Perm (Node.ids nodes)) :
      free order source = free (Node.ids nodes) source := by
    obtain ⟨hsafe, hdistinct⟩ := any horder
    exact (each horder _).1 ((freesEach_iff_free hsafe hdistinct (List.Perm.refl _)).2 rfl)
  refine ⟨fun order horder => ⟨each horder, ?_⟩, fun nodes' h => same h, ?_⟩
  · obtain ⟨hsafe, hdistinct⟩ := any horder
    rw [foldl_free hsafe hdistinct, same horder]
  · rintro a b rfl
    rw [Node.ids_append] at hids hnodup ⊢
    exact free_append hids hnodup source

end Trees

/-- One name is the beginning of another, and a keyword stands in front of a declaration. -/
theorem free_eq_one_by_one_nested :
    let path : Node := ⟨"xy", "u", some "k", [], none, none⟩
    let nodes : List Node :=
      [⟨"x", "lib", some "lib", [path], none, none⟩, ⟨"y", "pad", some "pad", [], none, none⟩]
    let source := "var let x = 1; const xy = y; let y == 2; var x = 3;"
    let result := "var x = 1; xy = y; let y == 2; var x = 3;"
    (Node.ids nodes).Nodup ∧ (∀ id ∈ Node.ids nodes, IsSafeName id) ∧
      free (Node.ids nodes) source = result ∧
      FreesEach (["y", "xy", "x"].map String.toList) source.toList result.toList ∧
      free ["y"] (free ["x", "xy"] source) = result := by
  intro path nodes source result
  have hnodup : (Node.ids nodes).Nodup := by decide
  have hids : ∀ id ∈ Node.ids nodes, IsSafeName id := by decide
  have hfree : free (Node.ids nodes) source = result := by decide +kernel
  obtain ⟨hany, -, hparts⟩ := free_eq_one_by_one hnodup hids source
  refine ⟨hnodup, hids, hfree, ((hany ["y", "xy", "x"] (by decide)).1 result).2 hfree.symm, ?_⟩
  exact (hparts [nodes[0]] [nodes[1]] rfl).symm.trans hfree

end ExportBundle.Export.Scope
