import ExportBundle.Proofs.Export.OneByOne

/-! The characters that freeing takes out of a text. A place of the text is looked at by itself: it
goes when the lead of the first declaration of a name covers it. Main statement: freeing takes out
the leads of the first declarations and nothing else, so that every name stays, and so does the lead
of a declaration that is not the first, that makes no assignment or that is about another name. -/

namespace ExportBundle.Export.Scope

open Identifier (isLetter IsSafeName)
open Text (isBlank)

/-- The result is the text without the characters at the places where `gone` holds. -/
inductive Without : (Nat → Prop) → List Char → List Char → Prop
  | nil {gone : Nat → Prop} : Without gone [] []
  | keep {gone : Nat → Prop} {c : Char} {text result : List Char} (here : ¬ gone 0)
      (later : Without (fun k => gone (k + 1)) text result) : Without gone (c :: text) (c :: result)
  | drop {gone : Nat → Prop} {c : Char} {text result : List Char} (here : gone 0)
      (later : Without (fun k => gone (k + 1)) text result) : Without gone (c :: text) result

/-- The name is declared in the text, which `left` stands in front of: the keyword begins at `start`
and the name at `stop`. -/
def DeclaredAt (left : Option Char) (text name : List Char) (start stop : Nat) : Prop :=
  ∃ d before after, text = before ++ after ∧ Begins d (before.getLast?.or left) after ∧
    d.name = name ∧ start = before.length ∧ stop = before.length + d.lead.length

/-- The leftmost declaration of the name. -/
structure FirstAt (left : Option Char) (text name : List Char) (start stop : Nat) : Prop where
  declared : DeclaredAt left text name start stop
  least : ∀ start' stop', DeclaredAt left text name start' stop' → start ≤ start'

/-- The place is in the lead of the leftmost declaration of a wanted name. -/
def Leads (wanted : List Char → Prop) (left : Option Char) (text : List Char) (k : Nat) : Prop :=
  ∃ name, wanted name ∧ ∃ start stop, FirstAt left text name start stop ∧ start ≤ k ∧ k < stop

section Deleting

variable {gone gone' : Nat → Prop} {a b a' b' : List Char}

theorem Without.congr (h : Without gone a b) (hsame : ∀ k, k < a.length → (gone k ↔ gone' k)) :
    Without gone' a b := by
  induction h generalizing gone' with
  | nil => exact .nil
  | keep here _ ih =>
    refine .keep (fun h => here ((hsame 0 (Nat.succ_pos _)).2 h)) (ih fun k hk => ?_)
    exact hsame (k + 1) (Nat.succ_lt_succ hk)
  | drop here _ ih =>
    refine .drop ((hsame 0 (Nat.succ_pos _)).1 here) (ih fun k hk => ?_)
    exact hsame (k + 1) (Nat.succ_lt_succ hk)

theorem Without.append (h : Without gone a b) (h' : Without gone' a' b')
    (hgone : ∀ k, k < a'.length → (gone' k ↔ gone (a.length + k))) :
    Without gone (a ++ a') (b ++ b') := by
  induction h with
  | nil => exact h'.congr fun k hk => by simpa using hgone k hk
  | @keep gone c a b here _ ih =>
    refine .keep here (ih fun k hk => ?_)
    rw [hgone k hk, List.length_cons, Nat.add_right_comm]
  | @drop gone c a b here _ ih =>
    refine .drop here (ih fun k hk => ?_)
    rw [hgone k hk, List.length_cons, Nat.add_right_comm]

theorem without_all (h : ∀ k, k < a.length → gone k) : Without gone a [] := by
  induction a generalizing gone with
  | nil => exact .nil
  | cons c a ih =>
    exact .drop (h 0 (Nat.succ_pos _)) (ih fun k hk => h (k + 1) (Nat.succ_lt_succ hk))

theorem without_none (h : ∀ k, k < a.length → ¬ gone k) : Without gone a a := by
  induction a generalizing gone with
  | nil => exact .nil
  | cons c a ih =>
    exact .keep (h 0 (Nat.succ_pos _)) (ih fun k hk => h (k + 1) (Nat.succ_lt_succ hk))

end Deleting

section Places

variable {left : Option Char} {a b name : List Char} {wanted : List Char → Prop} {start stop : Nat}

theorem endsName_iff : endsName b = true ↔ b.head?.any continuesName = false ∧
    ∃ blanks after, b = blanks ++ '=' :: after ∧ (∀ c ∈ blanks, isBlank c = true) ∧
      after.head? ≠ some '=' := by
  rw [endsName, Bool.and_eq_true, Bool.not_eq_true', assigns_iff, and_congr_right_iff]
  intro _
  constructor
  · rintro ⟨after, hdrop, hsingle⟩
    refine ⟨b.takeWhile isBlank, after, ?_, List.all_eq_true.1 List.all_takeWhile, hsingle⟩
    rw [← hdrop, Text.dropBlanks, List.takeWhile_append_dropWhile]
  · rintro ⟨blanks, after, rfl, hblanks, hsingle⟩
    exact ⟨after, dropWhile_span hblanks rfl, hsingle⟩

/-- What is written where a name is declared: a keyword that nothing hides, blanks, the name, which
ends there, and after any blanks an equals sign that is not doubled. -/
theorem declaredAt_iff : DeclaredAt left a name start stop ↔
    ∃ before keyword blanks rest, a = before ++ (keyword ++ (blanks ++ (name ++ rest))) ∧
      start = before.length ∧ stop = before.length + (keyword.length + blanks.length) ∧
      (before.getLast?.or left).any hidesKeyword = false ∧ keyword ∈ keywords ∧ blanks ≠ [] ∧
      (∀ c ∈ blanks, isBlank c = true) ∧ rest.head?.any continuesName = false ∧
      ∃ spaces after, rest = spaces ++ '=' :: after ∧ (∀ c ∈ spaces, isBlank c = true) ∧
        after.head? ≠ some '=' := by
  constructor
  · rintro ⟨⟨lead, name⟩, before, text, rfl, hbegins, rfl, rfl, rfl⟩
    obtain ⟨keyword, blanks, rest, hkeyword, hne, hblanks, rfl, rfl, hends⟩ := hbegins.parts
    obtain ⟨hword, hassigns⟩ := endsName_iff.1 hends
    exact ⟨before, keyword, blanks, rest, by simp [Declaration.text], rfl, by simp,
      hbegins.unhidden, hkeyword, hne, hblanks, hword, hassigns⟩
  · rintro ⟨before, keyword, blanks, rest, rfl, rfl, rfl, hunhidden, hkeyword, hne, hblanks, hword,
      hassigns⟩
    exact ⟨⟨keyword ++ blanks, name⟩, before, _, rfl, ⟨hunhidden, keyword, blanks, rest, hkeyword,
      hne, hblanks, rfl, by simp [Declaration.text], endsName_iff.2 ⟨hword, hassigns⟩⟩, rfl, rfl,
      by simp⟩

theorem declaredAt_append (h : Quiet [name] b left a) : DeclaredAt left (a ++ b) name start stop ↔
    ∃ s t, start = a.length + s ∧ stop = a.length + t ∧
      DeclaredAt (a.getLast?.or left) b name s t := by
  constructor
  · rintro ⟨d, before, after, htext, hbegins, hname, rfl, rfl⟩
    rcases List.append_eq_append_iff.1 htext with ⟨u, rfl, rfl⟩ | ⟨u, rfl, rfl⟩
    · rw [getLast?_append_or] at hbegins
      exact ⟨u.length, u.length + d.lead.length, by simp, by simp [Nat.add_assoc],
        d, u, after, rfl, hbegins, hname, rfl, rfl⟩
    · cases u with
      | nil =>
        rw [List.append_nil] at h ⊢
        exact ⟨0, d.lead.length, by simp, by simp, d, [], b, rfl, by simpa using hbegins, hname,
          rfl, by simp⟩
      | cons c u =>
        exact absurd hbegins (h.not_begins (List.cons_ne_nil c u) (List.mem_singleton.2 hname))
  · rintro ⟨s, t, rfl, rfl, d, before, after, rfl, hbegins, hname, rfl, rfl⟩
    refine ⟨d, a ++ before, after, by simp, ?_, hname, by simp, by simp [Nat.add_assoc]⟩
    rwa [getLast?_append_or]

theorem firstAt_append (h : Quiet [name] b left a) : FirstAt left (a ++ b) name start stop ↔
    ∃ s t, start = a.length + s ∧ stop = a.length + t ∧ FirstAt (a.getLast?.or left) b name s t := by
  constructor
  · rintro ⟨hdeclared, hleast⟩
    obtain ⟨s, t, rfl, rfl, hlater⟩ := (declaredAt_append h).1 hdeclared
    refine ⟨s, t, rfl, rfl, hlater, fun s' t' h' => ?_⟩
    have hle := hleast _ _ ((declaredAt_append h).2 ⟨s', t', rfl, rfl, h'⟩)
    omega
  · rintro ⟨s, t, rfl, rfl, hdeclared, hleast⟩
    refine ⟨(declaredAt_append h).2 ⟨s, t, rfl, rfl, hdeclared⟩, fun start' stop' h' => ?_⟩
    obtain ⟨s', t', rfl, rfl, hlater⟩ := (declaredAt_append h).1 h'
    exact Nat.add_le_add_left (hleast _ _ hlater) _

theorem leads_append (h : ∀ name, wanted name → Quiet [name] b left a) (k : Nat) :
    (k < a.length → ¬ Leads wanted left (a ++ b) k) ∧
      (Leads wanted left (a ++ b) (a.length + k) ↔ Leads wanted (a.getLast?.or left) b k) := by
  constructor
  · rintro hk ⟨name, hname, start, stop, hfirst, hstart, -⟩
    obtain ⟨s, t, rfl, rfl, -⟩ := (firstAt_append (h name hname)).1 hfirst
    omega
  · constructor
    · rintro ⟨name, hname, start, stop, hfirst, hstart, hstop⟩
      obtain ⟨s, t, rfl, rfl, hlater⟩ := (firstAt_append (h name hname)).1 hfirst
      exact ⟨name, hname, s, t, hlater, by omega, by omega⟩
    · rintro ⟨name, hname, s, t, hfirst, hs, ht⟩
      exact ⟨name, hname, _, _, (firstAt_append (h name hname)).2 ⟨s, t, rfl, rfl, hfirst⟩,
        by omega, by omega⟩

end Places

section Passing

variable {names freed : List (List Char)} {left : Option Char} {d : Declaration} {rest : List Char}

def Wanted (names freed : List (List Char)) (name : List Char) : Prop := name ∈ names ∧ name ∉ freed

theorem Begins.firstAt (h : Begins d left (d.text ++ rest)) (hd : IsLetterName d.name)
    (start stop : Nat) : FirstAt left (d.text ++ rest) d.name start stop ↔
      start = 0 ∧ stop = d.lead.length := by
  have hdeclared : DeclaredAt left (d.text ++ rest) d.name 0 d.lead.length :=
    ⟨d, [], d.text ++ rest, rfl, by simpa using h, rfl, rfl, by simp⟩
  constructor
  · rintro ⟨⟨e, before, after, htext, hbegins, hname, rfl, rfl⟩, hleast⟩
    obtain rfl := List.eq_nil_of_length_eq_zero (Nat.le_zero.1 (hleast _ _ hdeclared))
    rw [List.nil_append] at htext
    rw [← htext, List.getLast?_nil, Option.none_or] at hbegins
    obtain rfl := hbegins.unique h (hname ▸ hd) hd
    exact ⟨rfl, by simp⟩
  · rintro ⟨rfl, rfl⟩
    exact ⟨hdeclared, fun _ _ _ => Nat.zero_le _⟩

theorem Begins.leads_iff (h : Begins d left (d.text ++ rest)) (hnames : ∀ n ∈ names, IsBindingName n)
    (hmem : d.name ∈ names) (hnew : d.name ∉ freed) (k : Nat) :
    Leads (Wanted names freed) left (d.text ++ rest) k ↔
      k < d.lead.length ∨ Leads (Wanted names (d.name :: freed)) left (d.text ++ rest) k := by
  have hfirst := h.firstAt (hnames _ hmem).toIsLetterName
  constructor
  · rintro ⟨name, ⟨hname, hwanted⟩, start, stop, hat, hstart, hstop⟩
    by_cases hsame : name = d.name
    · subst hsame
      obtain ⟨rfl, rfl⟩ := (hfirst _ _).1 hat
      exact .inl hstop
    · exact .inr ⟨name, ⟨hname, by simp [hsame, hwanted]⟩, start, stop, hat, hstart, hstop⟩
  · rintro (hk | ⟨name, ⟨hname, hwanted⟩, hplace⟩)
    · exact ⟨d.name, ⟨hmem, hnew⟩, 0, _, (hfirst _ _).2 ⟨rfl, rfl⟩, Nat.zero_le k, hk⟩
    · exact ⟨name, ⟨hname, fun hm => hwanted (List.mem_cons_of_mem _ hm)⟩, hplace⟩

theorem Begins.leads_past (h : Begins d left (d.text ++ rest)) (hnames : ∀ n ∈ names, IsBindingName n)
    (hmem : d.name ∈ names) (hfreed : d.name ∈ freed) (k : Nat) :
    (k < d.text.length → ¬ Leads (Wanted names freed) left (d.text ++ rest) k) ∧
      (Leads (Wanted names freed) left (d.text ++ rest) (d.text.length + k) ↔
        Leads (Wanted names freed) d.text.getLast? rest k) := by
  rw [← getLast?_or_of_ne h.text_ne_nil left]
  refine leads_append (fun name hwanted => ?_) k
  refine h.quiet (hnames _ hmem) (fun n hn => ?_) fun hsame => ?_
  · rw [List.mem_singleton.1 hn]
    exact (hnames name hwanted.1).toIsLetterName
  · exact hwanted.2 (List.mem_singleton.1 hsame ▸ hfreed)

theorem without_pass (hnames : ∀ n ∈ names, IsBindingName n) (left : Option Char)
    (text : List Char) :
    Without (Leads (Wanted names freed) left text) text (pass names freed left text) := by
  have hletters : ∀ n ∈ names, IsLetterName n := fun n hn => (hnames n hn).toIsLetterName
  induction left, text using scan_induction names generalizing freed with
  | nil left => exact .nil
  | char left c rest hnone ih =>
    have hquiet : ∀ name, Wanted names freed name → Quiet [name] rest left [c] := by
      rintro name ⟨hname, -⟩
      refine .cons (fun d hd => hnone d ?_) .nil
      rwa [List.mem_singleton.1 hd]
    rw [pass_char hnone]
    refine .keep ((leads_append hquiet 0).1 Nat.zero_lt_one) ?_
    refine ih.congr fun k _ => ?_
    rw [Nat.add_comm k 1]
    exact (leads_append hquiet k).2.symm
  | declaration left d rest hd hbegins ih =>
    -- A name that is free already keeps the leads of its later declarations.
    by_cases hfreed : d.name ∈ freed
    · have hpast := hbegins.leads_past hnames hd hfreed
      rw [hbegins.pass_eq_of_freed hletters hd hfreed]
      refine (without_none fun k => (hpast k).1).append ih fun k _ => ?_
      exact (hpast k).2.symm
    · have hnew : d.name ∈ d.name :: freed := List.mem_cons_self
      have hpast := hbegins.leads_past hnames hd hnew
      have hleads := hbegins.leads_iff hnames hd hfreed
      have hlength : d.text.length = d.lead.length + d.name.length := List.length_append
      have hlead := without_all fun k hk => (hleads k).2 (.inl hk)
      have hname : Without (fun k => Leads (Wanted names freed) left (d.text ++ rest)
          (d.lead.length + k)) d.name d.name := by
        refine without_none fun k hk hgoes => ?_
        rcases (hleads _).1 hgoes with hshort | hother
        · omega
        · exact (hpast _).1 (by omega) hother
      have hrest := hname.append ih fun k _ => by
        rw [hleads, ← Nat.add_assoc, ← hlength, (hpast k).2, or_iff_right (by omega)]
      have hall := hlead.append hrest fun k _ => Iff.rfl
      rw [hbegins.pass_eq hletters hd hfreed]
      rwa [← List.append_assoc] at hall

end Passing

section Runs

variable {p : Char → Bool} {u u' r r' v v' : List Char}

theorem exists_mem_of_between {k : Nat} (hk : u.length ≤ k) (hk' : k < u.length + r.length) :
    ∃ c ∈ r, (u ++ (r ++ v))[k]? = some c := by
  have hlt : k - u.length < r.length := by omega
  refine ⟨r[k - u.length], List.getElem_mem hlt, ?_⟩
  rw [List.getElem?_append_right hk, List.getElem?_append_left hlt, List.getElem?_eq_getElem hlt]

theorem not_between_of_kinds (h : u ++ (r ++ v) = u' ++ (r' ++ v')) (hr : ∀ c ∈ r, p c = true)
    (hr' : ∀ c ∈ r', p c = false) {k : Nat} (hk : u.length ≤ k) (hk' : k < u.length + r.length)
    (hku : u'.length ≤ k) : ¬ k < u'.length + r'.length := by
  intro hkr
  obtain ⟨c, hc, hget⟩ := exists_mem_of_between (v := v) hk hk'
  obtain ⟨c', hc', hget'⟩ := exists_mem_of_between (v := v') hku hkr
  rw [h, hget'] at hget
  obtain rfl := Option.some.inj hget
  cases (hr c' hc).symm.trans (hr' c' hc')

theorem starts_of_overlap {t : List Char} (h : r ++ v = t ++ (r' ++ v')) (hr : ∀ c ∈ r, p c = true)
    (hstart : (u ++ t).getLast?.any p = false) (hover : t.length < r.length) : t = [] := by
  by_contra hne
  rcases List.append_eq_append_iff.1 h with ⟨w, rfl, -⟩ | ⟨w, rfl, -⟩
  · rw [List.length_append] at hover
    omega
  · rw [List.getLast?_append, List.getLast?_eq_some_getLast hne, Option.some_or, Option.any_some,
      hr _ (List.mem_append_left w (List.getLast_mem hne))] at hstart
    cases hstart

theorem run_unique (h : u ++ (r ++ v) = u' ++ (r' ++ v')) (hr : ∀ c ∈ r, p c = true)
    (hr' : ∀ c ∈ r', p c = true) (hu : u.getLast?.any p = false) (hu' : u'.getLast?.any p = false)
    (hv : v.head?.any p = false) (hv' : v'.head?.any p = false)
    (hover : u'.length < u.length + r.length) (hover' : u.length < u'.length + r'.length) :
    u = u' ∧ r = r' ∧ v = v' := by
  have hstart : u = u' := by
    rcases List.append_eq_append_iff.1 h with ⟨t, rfl, hrest⟩ | ⟨t, rfl, hrest⟩
    · rw [starts_of_overlap hrest hr hu' (by simpa using hover), List.append_nil]
    · rw [starts_of_overlap hrest hr' hu (by simpa using hover'), List.append_nil]
  subst hstart
  exact ⟨rfl, span_unique hr hr' hv hv' (List.append_cancel_left h)⟩

end Runs

section Kinds

theorem ranges_apart : ∀ r ∈ Text.wordRanges, ∀ b ∈ Text.blankRanges, r.2 < b.1 ∨ b.2 < r.1 := by
  decide +kernel

theorem continuesName_of_isBlank {c : Char} (h : isBlank c = true) : continuesName c = false := by
  obtain ⟨b, hb, hle, hle'⟩ := Text.inRanges_iff.1 h
  have hbeyond : Text.inRanges Text.wordRanges c.toNat = false := by
    rw [Bool.eq_false_iff, ne_eq, Text.inRanges_iff]
    rintro ⟨r, hr, hword⟩
    have := ranges_apart r hr b hb
    omega
  have hlow : c.toNat < 128 → c.toNat ≤ 32 := by
    simp only [Text.blankRanges, List.mem_cons, List.not_mem_nil, or_false] at hb
    rcases hb with rfl | rfl | rfl | rfl | rfl | rfl | rfl | rfl | rfl | rfl <;>
      simp only at hle hle' <;> omega
  have hascii : ∀ n < 33, (Char.ofNat n).isAlphanum = false ∧ Char.ofNat n ≠ '_' := by decide
  have hdollar : c ≠ '$' := by
    rintro rfl
    exact absurd h (by decide)
  rw [continuesName, Text.isWord]
  split
  · rename_i hsmall
    have hplain := hascii c.toNat (Nat.lt_succ_of_le (hlow hsmall))
    rw [Char.ofNat_toNat] at hplain
    simp [hplain.1, hplain.2, hdollar]
  · simp [hbeyond, hdollar]

theorem isBlank_of_continuesName {c : Char} (h : continuesName c = true) : isBlank c = false := by
  rw [Bool.eq_false_iff]
  intro hblank
  cases h.symm.trans (continuesName_of_isBlank hblank)

theorem continuesName_eq_false_of_hidesKeyword {left : Option Char}
    (h : left.any hidesKeyword = false) : left.any continuesName = false := by
  cases left with
  | none => rfl
  | some c =>
    rw [Option.any_some, hidesKeyword, Bool.or_eq_false_iff] at h
    exact h.1

theorem keyword_eq_of_suffix : ∀ a ∈ keywords, ∀ b ∈ keywords, a <:+ b → a = b := by decide

end Kinds

section Meeting

variable {u u' a a' b b' t t' : List Char} {k : Nat}

theorem blanks_reach (h : u ++ (a ++ (b ++ t)) = u' ++ (a' ++ (b' ++ t'))) (ha' : a' ∈ keywords)
    (hne : b ≠ []) (hb : ∀ c ∈ b, isBlank c = true) (hk : u'.length ≤ k)
    (hk' : k < u.length + (a.length + b.length)) :
    (u' ++ a').length < (u ++ a).length + b.length := by
  have hpos := List.length_pos_iff.2 hne
  have hletters : ∀ c ∈ a', isBlank c = false :=
    fun c hc => isBlank_of_isLetter (isLetter_of_mem_keyword ha' c hc)
  rw [← List.append_assoc u] at h
  rw [List.length_append, List.length_append]
  by_contra hover
  refine not_between_of_kinds (k := u.length + a.length + b.length - 1) h hb hletters ?_ ?_ ?_ ?_
  · rw [List.length_append]
    omega
  · rw [List.length_append]
    omega
  · omega
  · omega

theorem getLast?_keyword (ha : a ∈ keywords) (u : List Char) :
    (u ++ a).getLast?.any isBlank = false := by
  have hne : a ≠ [] := by
    rintro rfl
    exact absurd ha (by decide)
  rw [List.getLast?_append, List.getLast?_eq_some_getLast hne]
  exact isBlank_of_isLetter (isLetter_of_mem_keyword ha _ (List.getLast_mem hne))

theorem keyword_unique (h : u ++ a = u' ++ a') (ha : a ∈ keywords) (ha' : a' ∈ keywords) :
    u = u' ∧ a = a' := by
  have hsame : a = a' := by
    rcases List.append_eq_append_iff.1 h with ⟨s, -, rfl⟩ | ⟨s, -, rfl⟩
    · exact (keyword_eq_of_suffix _ ha' _ ha (List.suffix_append s a')).symm
    · exact keyword_eq_of_suffix _ ha _ ha' (List.suffix_append s a)
  subst hsame
  exact ⟨List.append_cancel_right h, rfl⟩

theorem lead_unique (h : u ++ (a ++ (b ++ t)) = u' ++ (a' ++ (b' ++ t'))) (ha : a ∈ keywords)
    (ha' : a' ∈ keywords) (hne : b ≠ []) (hne' : b' ≠ []) (hb : ∀ c ∈ b, isBlank c = true)
    (hb' : ∀ c ∈ b', isBlank c = true) (ht : t.head?.any isBlank = false)
    (ht' : t'.head?.any isBlank = false) (hk : u.length ≤ k)
    (hstop : k < u.length + (a.length + b.length)) (hk' : u'.length ≤ k)
    (hstop' : k < u'.length + (a'.length + b'.length)) : u = u' ∧ a = a' ∧ b = b' ∧ t = t' := by
  have hover := blanks_reach h ha' hne hb hk' hstop
  have hover' := blanks_reach h.symm ha hne' hb' hk hstop'
  rw [← List.append_assoc u, ← List.append_assoc u'] at h
  obtain ⟨hfront, rfl, rfl⟩ := run_unique h hb hb' (getLast?_keyword ha u) (getLast?_keyword ha' u')
    ht ht' hover hover'
  obtain ⟨rfl, rfl⟩ := keyword_unique hfront ha ha'
  exact ⟨rfl, rfl, rfl, rfl⟩

end Meeting

section Names

variable {wanted : List Char → Prop} {before keyword blanks word after : List Char} {k : Nat}

/-- A whole name stands between the two parts of a text. -/
structure IsWhole (before word after : List Char) : Prop where
  ne : word ≠ []
  continues : ∀ c ∈ word, continuesName c = true
  starts : before.getLast?.any continuesName = false
  ends : after.head?.any continuesName = false

/-- A keyword with blanks behind it stands in front of a whole name. -/
structure Introduces (before keyword blanks word after : List Char) : Prop where
  known : keyword ∈ keywords
  ne : blanks ≠ []
  blank : ∀ c ∈ blanks, isBlank c = true
  whole : IsWhole (before ++ (keyword ++ blanks)) word after

theorem Leads.parts {text : List Char} (h : Leads wanted none text k) :
    ∃ u keyword blanks name rest, text = u ++ (keyword ++ (blanks ++ (name ++ rest))) ∧
      wanted name ∧ keyword ∈ keywords ∧ blanks ≠ [] ∧ (∀ c ∈ blanks, isBlank c = true) ∧
      u.getLast?.any hidesKeyword = false ∧ endsName rest = true ∧
      FirstAt none text name u.length (u.length + (keyword.length + blanks.length)) ∧
      u.length ≤ k ∧ k < u.length + (keyword.length + blanks.length) := by
  obtain ⟨name, hwanted, start, stop, hfirst, hstart, hstop⟩ := h
  obtain ⟨d, u, v, rfl, hbegins, rfl, rfl, rfl⟩ := hfirst.declared
  obtain ⟨keyword, blanks, rest, hkeyword, hne, hblanks, hlead, rfl, hends⟩ := hbegins.parts
  have hunhidden := hbegins.unhidden
  rw [Option.or_none] at hunhidden
  rw [hlead, List.length_append] at hfirst hstop
  refine ⟨u, keyword, blanks, d.name, rest, ?_, hwanted, hkeyword, hne, hblanks, hunhidden, hends,
    hfirst, hstart, hstop⟩
  rw [Declaration.text, hlead, List.append_assoc, List.append_assoc]

theorem IsWhole.not_leads (h : IsWhole before word after) (hword : word ∉ keywords)
    (hk : before.length ≤ k)
    (hk' : k < before.length + word.length) : ¬ Leads wanted none (before ++ (word ++ after)) k := by
  intro hleads
  obtain ⟨u, keyword, blanks, name, rest, htext, -, hkeyword, hne, hblanks, hunhidden, -, -, hstart,
    hstop⟩ := hleads.parts
  have hletters := isLetter_of_mem_keyword hkeyword
  have hcontinues : ∀ c ∈ keyword, continuesName c = true :=
    fun c hc => continuesName_of_isLetter (hletters c hc)
  have hapart : ∀ c ∈ blanks, continuesName c = false :=
    fun c hc => continuesName_of_isBlank (hblanks c hc)
  by_cases hplace : k < u.length + keyword.length
  · obtain ⟨-, rfl, -⟩ := run_unique htext h.continues hcontinues h.starts
      (continuesName_eq_false_of_hidesKeyword hunhidden) h.ends (head?_any_append hne hapart)
      (by omega) (by omega)
    exact hword hkeyword
  · rw [← List.append_assoc u] at htext
    refine not_between_of_kinds htext h.continues hapart hk hk' ?_ ?_
    · rw [List.length_append]
      omega
    · rw [List.length_append]
      omega

/-- The lead in front of a whole name goes as a whole, where it is that of the first declaration of a
wanted name, and stays as a whole otherwise. -/
theorem Introduces.leads_iff (h : Introduces before keyword blanks word after)
    (hnames : ∀ name, wanted name → IsLetterName name) (hk : before.length ≤ k)
    (hk' : k < before.length + (keyword.length + blanks.length)) :
    Leads wanted none (before ++ (keyword ++ (blanks ++ (word ++ after)))) k ↔
      wanted word ∧ FirstAt none (before ++ (keyword ++ (blanks ++ (word ++ after)))) word
        before.length (before.length + (keyword.length + blanks.length)) := by
  constructor
  · intro hleads
    obtain ⟨u, keyword', blanks', name, rest, htext, hwanted, hkeyword', hne', hblanks', -, hends,
      hfirst, hstart, hstop⟩ := hleads.parts
    have hname := hnames name hwanted
    have hcontinues : ∀ c ∈ name, continuesName c = true :=
      fun c hc => continuesName_of_isLetter (hname.letters c hc)
    obtain ⟨rfl, rfl, rfl, hrest⟩ := lead_unique htext h.known hkeyword' h.ne hne' h.blank hblanks'
      (head?_any_append h.whole.ne fun c hc => isBlank_of_continuesName (h.whole.continues c hc))
      (head?_any_append hname.ne fun c hc => isBlank_of_isLetter (hname.letters c hc))
      hk hk' hstart hstop
    obtain ⟨rfl, rfl⟩ := span_unique h.whole.continues hcontinues h.whole.ends
      (endsName_iff.1 hends).1 hrest
    exact ⟨hwanted, hfirst⟩
  · rintro ⟨hwanted, hfirst⟩
    exact ⟨word, hwanted, _, _, hfirst, hk, hk'⟩

end Names

/-- Freeing the names of a tree takes out the leads of their first declarations and keeps every other
character where it is. So every whole name stays, and the lead in front of a whole name goes exactly
if the name is one of the tree and its first declaration stands there: a second declaration, one
without an assignment and one of a longer or shorter name stay as they are. -/
theorem free_first_declarations {nodes : List Node} (hids : ∀ id ∈ Node.ids nodes, IsSafeName id)
    (source : String) :
    let names := (Node.ids nodes).map String.toList
    let goes := Leads (· ∈ names) none source.toList
    Without goes source.toList (free (Node.ids nodes) source).toList ∧
      (∀ before word after, source.toList = before ++ (word ++ after) → IsWhole before word after →
        word ∉ keywords → ∀ k, before.length ≤ k → k < before.length + word.length → ¬ goes k) ∧
      ∀ before keyword blanks word after,
        source.toList = before ++ (keyword ++ (blanks ++ (word ++ after))) →
        Introduces before keyword blanks word after →
        ∀ k, before.length ≤ k → k < before.length + (keyword.length + blanks.length) →
          (goes k ↔ word ∈ names ∧ FirstAt none source.toList word before.length
            (before.length + (keyword.length + blanks.length))) := by
  intro names goes
  have hnames : ∀ name ∈ names, IsBindingName name := isBindingName_of_mem hids
  have hletters : ∀ name ∈ names, IsLetterName name := fun n hn => (hnames n hn).toIsLetterName
  refine ⟨?_, fun before word after htext hwhole hword k hk hk' => ?_,
    fun before keyword blanks word after htext hintroduces k hk hk' => ?_⟩
  · have hsame : ∀ n, n ∈ longestFirst names ↔ n ∈ names := fun n => by simp [longestFirst]
    rw [toList_free, ← pass_congr hletters fun n => (hsame n).symm]
    refine (without_pass hnames none source.toList).congr fun k _ => ?_
    simp only [goes, Leads, Wanted, List.not_mem_nil, not_false_eq_true, and_true]
  · simp only [goes, htext]
    exact hwhole.not_leads hword hk hk'
  · simp only [goes, htext]
    exact hintroduces.leads_iff hletters hk hk'

/-- A declaration without an assignment, one of a longer name and a second one stay. -/
theorem free_first_declarations_repeated :
    let nodes : List Node :=
      [⟨"x", "lib", some "lib", [⟨"y", "u", some "k", [], none, none⟩], none, none⟩]
    let source := "var x; let xy = 1; const x = 2; var x = 3;"
    let result := "var x; let xy = 1; x = 2; var x = 3;"
    let goes := Leads (· ∈ ["x".toList, "y".toList]) none source.toList
    (∀ id ∈ Node.ids nodes, IsSafeName id) ∧ free (Node.ids nodes) source = result ∧
      Without goes source.toList result.toList ∧ ∀ k, 7 ≤ k → k < 13 → ¬ goes k := by
  intro nodes source result goes
  have hids : ∀ id ∈ Node.ids nodes, IsSafeName id := by decide
  have hfree : free (Node.ids nodes) source = result := by decide +kernel
  obtain ⟨hwithout, hwhole, hlead⟩ := free_first_declarations hids source
  have hxy : IsWhole "var x; let ".toList "xy".toList " = 1; const x = 2; var x = 3;".toList :=
    ⟨by decide, by decide, by decide, by decide⟩
  refine ⟨hids, hfree, hfree ▸ hwithout, fun k hk hk' => ?_⟩
  by_cases hplace : k < 11
  · have hintroduces : Introduces "var x; ".toList "let".toList " ".toList "xy".toList
        " = 1; const x = 2; var x = 3;".toList := ⟨by decide, by decide, by decide, hxy⟩
    intro hgoes
    have hmem := ((hlead _ _ _ _ _ (by decide) hintroduces k hk hplace).1 hgoes).1
    exact absurd hmem (by decide)
  · exact hwhole _ _ _ (by decide) hxy (by decide) k (Nat.le_of_not_lt hplace) hk'

end ExportBundle.Export.Scope
