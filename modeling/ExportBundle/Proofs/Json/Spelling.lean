import ExportBundle.Json.Printer
import ExportBundle.Proofs.Json.Numbers
import ExportBundle.Proofs.OrderedMap
import ExportBundle.Proofs.Text.Quoted
import ExportBundle.Text.Split
import Mathlib.Data.List.Forall2

/-! Texts that spell a value. Wherever such a text stands, the reader finds the value in it and
stops right behind it; the texts of the parts of a value make up one for the whole, with blanks
after any separator. Main statements: the indented and the compact text of a document without fractions
read as the document. -/

namespace ExportBundle.Json

namespace Reader

/-- Wherever the text stands, the reader finds the value in it and stops right behind it. -/
def Spells (limited : Bool) (text : List Char) (v : Value) : Prop :=
  ∀ fuel rest, text.length < fuel → Ends rest →
    value limited fuel (text ++ rest) = .ok (v, rest)

theorem dropSpace_append {gap : List Char} (h : ∀ c ∈ gap, isSpace c = true) (r : List Char) :
    dropSpace (gap ++ r) = dropSpace r := List.dropWhile_append_of_pos h

theorem dropSpace_cons {c : Char} (h : isSpace c = false) (r : List Char) :
    dropSpace (c :: r) = c :: r := List.dropWhile_cons_of_neg (by simp [h])

theorem ends_append {gap : List Char} (h : ∀ c ∈ gap, isSpace c = true) {r : List Char}
    (hr : Ends r) : Ends (gap ++ r) := by
  cases gap with
  | nil => exact hr
  | cons c gap =>
    intro d hd
    obtain rfl := Option.mem_some.1 hd
    exact .inl (h c (by simp))

variable {limited : Bool}

theorem Spells.head {text : List Char} {v : Value} (h : Spells limited text v) :
    ∃ c r, text = c :: r ∧ isSpace c = false ∧ c ≠ ']' ∧ c ≠ '\ufeff' := by
  have hread := h (text.length + 1) [] (Nat.lt_succ_self _) (by simp [Ends])
  cases text with
  | nil => cases hread
  | cons c r =>
    refine ⟨c, r, rfl, ?_, ?_, ?_⟩
    · rw [Bool.eq_false_iff]
      intro hc
      simp only [isSpace, Bool.or_eq_true, beq_iff_eq] at hc
      rcases hc with ((rfl | rfl) | rfl) | rfl <;> cases hread
    · rintro rfl
      cases hread
    · rintro rfl
      cases hread

theorem Spells.document {text : List Char} {v : Value} (h : Spells limited text v) :
    document limited text = .ok v := by
  have hread := h (text.length + 1) [] (Nat.lt_succ_self _) (by simp [Ends])
  obtain ⟨c, r, rfl, hc, _, hmark⟩ := h.head
  rw [List.append_nil] at hread
  have hhead : ((c :: r).head? == some '\ufeff') = false := by simpa using hmark
  rw [Reader.document, hhead, dropSpace_cons hc]
  simp only [bind, Except.bind, Bool.false_eq_true, if_false]
  rw [hread]
  rfl

theorem spells_int {n : Int} (h : limited = true → Text.fitsDigitLimit n = true) :
    Spells limited (Text.decimalInt n).toList (.int n) := by
  have hlength {m k : Nat} (hk : 0 < k) (hm : m < Nat.pow 10 k) : (Nat.toDigits 10 m).length ≤ k :=
    (Nat.length_toDigits_le_iff (by decide) hk).2 hm
  have hlimit {m : Nat} (hm : n.natAbs = m) :
      limited = true → (Nat.toDigits 10 m).length ≤ Text.digitLimit := by
    intro hlimited
    have hfits := h hlimited
    rw [Text.fitsDigitLimit, decide_eq_true_eq, hm] at hfits
    exact hlength (by decide) hfits
  intro fuel rest hfuel hrest
  obtain ⟨f, rfl⟩ : ∃ f, fuel = f + 1 := Nat.exists_eq_succ_of_ne_zero (by omega)
  cases n with
  | ofNat m =>
    rw [Text.decimalInt, Text.decimal, String.toList_ofList]
    exact (value_toDigits (hlimit rfl) hrest f).1
  | negSucc m =>
    rw [Text.decimalInt, Text.decimal, String.toList_append, String.toList_ofList,
      String.toList_ofList]
    exact (value_toDigits (n := m + 1) (hlimit rfl) hrest f).2

theorem spells_str (s : String) : Spells limited (Text.jsonQuoted s).toList (.str s) := by
  intro fuel rest hfuel _
  obtain ⟨f, rfl⟩ : ∃ f, fuel = f + 1 := Nat.exists_eq_succ_of_ne_zero (by omega)
  rw [toList_jsonQuoted, List.append_assoc, List.cons_append, List.singleton_append]
  change (string _ _).map _ = _
  rw [string_jsonQuoted]
  rfl

theorem intercalate_head (separator r : List Char) (c : Char) (texts : List (List Char)) :
    ∃ r', separator.intercalate ((c :: r) :: texts) = c :: r' := by
  cases texts with
  | nil => exact ⟨r, List.intercalate_singleton⟩
  | cons next texts => exact ⟨_, by rw [List.intercalate_cons_cons]; rfl⟩

theorem ends_close {tail : List Char} (htail : ∀ c ∈ tail, isSpace c = true) {c : Char}
    (hc : c = ']' ∨ c = '\x7d') (rest : List Char) : Ends (tail ++ c :: rest) := by
  refine ends_append htail fun d hd => ?_
  obtain rfl := Option.mem_some.1 hd
  exact .inr (.inr hc)

theorem ends_comma (r : List Char) : Ends (',' :: r) := fun c hc => by
  obtain rfl := Option.mem_some.1 hc
  simp

/-- A text for a member: the quoted name, a colon and a text for the value. -/
def SpellsMember (limited : Bool) (text : List Char) (m : String × Value) : Prop :=
  ∃ blank body, (∀ c ∈ blank, isSpace c = true) ∧ Spells limited body m.2 ∧
    text = (Text.jsonQuoted m.1).toList ++ ':' :: (blank ++ body)

theorem members_member {text : List Char} {m : String × Value} (h : SpellsMember limited text m)
    (before : OrderedMap String Value) {fuel : Nat} (rest : List Char) (hfuel : text.length < fuel)
    (hrest : Ends rest) :
    members limited (fuel + 1) before (text ++ rest) = (match dropSpace rest with
      | '\x7d' :: r => .ok (.obj (before.put m.1 m.2), r)
      | ',' :: r => members limited fuel (before.put m.1 m.2) (dropSpace r)
      | r => .error (.fault .comma r)) := by
  obtain ⟨blank, body, hblank, hbody, rfl⟩ := h
  obtain ⟨c, r, rfl, hc, _⟩ := hbody.head
  simp only [List.length_append, List.length_cons] at hfuel
  have hread := hbody fuel rest (by simp; omega) hrest
  rw [toList_jsonQuoted] at hfuel ⊢
  simp only [List.append_assoc, List.cons_append, List.nil_append] at hread ⊢
  rw [members, string_jsonQuoted]
  change (value limited fuel (dropSpace (blank ++ c :: (r ++ rest))) >>= _) = _
  rw [dropSpace_append hblank, dropSpace_cons hc, hread]
  rfl

theorem SpellsMember.head {text : List Char} {m : String × Value}
    (h : SpellsMember limited text m) : ∃ r, text = '"' :: r := by
  obtain ⟨blank, body, _, _, rfl⟩ := h
  exact ⟨_, by rw [toList_jsonQuoted]; rfl⟩

section Rows

variable {gap tail : List Char} (hgap : ∀ c ∈ gap, isSpace c = true)
  (htail : ∀ c ∈ tail, isSpace c = true)

include hgap htail

theorem items_spelled {texts : List (List Char)} {vs : List Value}
    (h : List.Forall₂ (Spells limited) texts vs) (hne : texts ≠ []) (before : List Value)
    (fuel : Nat) (rest : List Char)
    (hfuel : ((',' :: gap).intercalate texts ++ tail).length + 1 < fuel) :
    items limited fuel before ((',' :: gap).intercalate texts ++ (tail ++ ']' :: rest)) =
      .ok (.arr (before.reverse ++ vs), rest) := by
  induction h generalizing before fuel with
  | nil => exact absurd rfl hne
  | @cons text v texts vs hv hvs ih =>
    obtain ⟨f, rfl⟩ : ∃ f, fuel = f + 1 := Nat.exists_eq_succ_of_ne_zero (by omega)
    cases hvs with
    | nil =>
      rw [List.intercalate_singleton, List.length_append] at hfuel
      rw [List.intercalate_singleton, items,
        hv f _ (by omega) (ends_close htail (.inl rfl) rest)]
      simp only [bind, Except.bind]
      rw [dropSpace_append htail, dropSpace_cons (by decide), List.reverse_cons]
      rfl
    | @cons next v' texts vs hnext hvs =>
      have hrest := ih (by simp) (v :: before) f
        (by rw [List.intercalate_cons_cons] at hfuel; simp at hfuel ⊢; omega)
      obtain ⟨c, r, rfl, hc, _⟩ := hnext.head
      obtain ⟨r', hhead⟩ := intercalate_head (',' :: gap) r c texts
      rw [hhead] at hrest
      rw [List.intercalate_cons_cons, hhead] at hfuel ⊢
      simp only [List.length_append, List.length_cons] at hfuel
      rw [items, List.append_assoc, List.append_assoc, List.cons_append,
        hv f _ (by omega) (ends_comma _)]
      simp only [bind, Except.bind]
      rw [dropSpace_cons (by decide)]
      change items limited f (v :: before)
        (dropSpace (gap ++ (c :: r' ++ (tail ++ ']' :: rest)))) = _
      rw [dropSpace_append hgap, List.cons_append, dropSpace_cons hc, ← List.cons_append, hrest]
      simp

theorem spells_arr {lead : List Char} (hlead : ∀ c ∈ lead, isSpace c = true)
    {texts : List (List Char)} {vs : List Value} (h : List.Forall₂ (Spells limited) texts vs) :
    Spells limited ('[' :: (lead ++ ((',' :: gap).intercalate texts ++ (tail ++ [']']))))
      (.arr vs) := by
  intro fuel rest hfuel _
  obtain ⟨f, rfl⟩ : ∃ f, fuel = f + 1 := Nat.exists_eq_succ_of_ne_zero (by omega)
  rw [List.cons_append, value]
  simp only [List.append_assoc, List.singleton_append]
  rw [dropSpace_append hlead]
  cases h with
  | nil =>
    rw [List.intercalate_nil, List.nil_append, dropSpace_append htail, dropSpace_cons (by decide)]
    rfl
  | @cons text v texts vs hv hvs =>
    have hrow := items_spelled hgap htail (List.Forall₂.cons hv hvs) (by simp) [] f rest
      (by simp at hfuel ⊢; omega)
    obtain ⟨c, r, rfl, hc, hclose, _⟩ := hv.head
    obtain ⟨r', hhead⟩ := intercalate_head (',' :: gap) r c texts
    rw [hhead, List.cons_append] at hrow ⊢
    rw [dropSpace_cons hc]
    split
    · rename_i heq
      obtain ⟨rfl, _⟩ := List.cons.inj heq
      exact absurd rfl hclose
    · exact hrow

theorem members_spelled {texts : List (List Char)} {ms : List (String × Value)}
    (h : List.Forall₂ (SpellsMember limited) texts ms) (hne : texts ≠ [])
    (before : OrderedMap String Value) (fuel : Nat) (rest : List Char)
    (hfuel : ((',' :: gap).intercalate texts ++ tail).length + 1 < fuel) :
    members limited fuel before ((',' :: gap).intercalate texts ++ (tail ++ '\x7d' :: rest)) =
      .ok (.obj (ms.foldl (fun all m => OrderedMap.put all m.1 m.2) before), rest) := by
  induction h generalizing before fuel with
  | nil => exact absurd rfl hne
  | @cons text m texts ms hm hms ih =>
    obtain ⟨f, rfl⟩ : ∃ f, fuel = f + 1 := Nat.exists_eq_succ_of_ne_zero (by omega)
    cases hms with
    | nil =>
      rw [List.intercalate_singleton, List.length_append] at hfuel
      rw [List.intercalate_singleton,
        members_member hm before _ (by omega) (ends_close htail (.inr rfl) rest),
        dropSpace_append htail, dropSpace_cons (by decide)]
      rfl
    | @cons next m' texts ms hnext hms =>
      have hrest := ih (by simp) (before.put m.1 m.2) f
        (by rw [List.intercalate_cons_cons] at hfuel; simp at hfuel ⊢; omega)
      obtain ⟨r, rfl⟩ := hnext.head
      obtain ⟨r', hhead⟩ := intercalate_head (',' :: gap) r '"' texts
      rw [hhead] at hrest
      rw [List.intercalate_cons_cons, hhead] at hfuel ⊢
      simp only [List.length_append, List.length_cons] at hfuel
      rw [List.append_assoc, List.append_assoc, List.cons_append,
        members_member hm before _ (by omega) (ends_comma _), dropSpace_cons (by decide)]
      change members limited f (before.put m.1 m.2)
        (dropSpace (gap ++ ('"' :: r' ++ (tail ++ '\x7d' :: rest)))) = _
      rw [dropSpace_append hgap, List.cons_append, dropSpace_cons (by decide), ← List.cons_append,
        hrest]
      rfl

theorem spells_obj {lead : List Char} (hlead : ∀ c ∈ lead, isSpace c = true)
    {texts : List (List Char)} {ms : List (String × Value)}
    (h : List.Forall₂ (SpellsMember limited) texts ms) :
    Spells limited ('\x7b' :: (lead ++ ((',' :: gap).intercalate texts ++ (tail ++ ['\x7d']))))
      (.obj (OrderedMap.ofEntries ms)) := by
  intro fuel rest hfuel _
  obtain ⟨f, rfl⟩ : ∃ f, fuel = f + 1 := Nat.exists_eq_succ_of_ne_zero (by omega)
  rw [List.cons_append, value]
  simp only [List.append_assoc, List.singleton_append]
  rw [dropSpace_append hlead]
  cases h with
  | nil =>
    rw [List.intercalate_nil, List.nil_append, dropSpace_append htail, dropSpace_cons (by decide)]
    rfl
  | @cons text m texts ms hm hms =>
    have hrow := members_spelled hgap htail (List.Forall₂.cons hm hms) (by simp) [] f rest
      (by simp at hfuel ⊢; omega)
    obtain ⟨r, rfl⟩ := hm.head
    obtain ⟨r', hhead⟩ := intercalate_head (',' :: gap) r '"' texts
    rw [hhead, List.cons_append] at hrow ⊢
    rw [dropSpace_cons (by decide)]
    exact hrow

end Rows

end Reader

/-! Documents without fractions -/

/-- A document in which all numbers are whole, and short enough to be read, and with no name twice
in an object. -/
inductive Exact (limited : Bool) : Value → Prop
  | null : Exact limited .null
  | bool (b : Bool) : Exact limited (.bool b)
  | int {n : Int} (h : limited = true → Text.fitsDigitLimit n = true) : Exact limited (.int n)
  | str (s : String) : Exact limited (.str s)
  | arr {items : List Value} (h : ∀ v ∈ items, Exact limited v) : Exact limited (.arr items)
  | obj {members : List (String × Value)} (hkeys : (OrderedMap.keys members).Nodup)
    (h : ∀ m ∈ members, Exact limited m.2) : Exact limited (.obj members)

open Value

variable {limited : Bool}

theorem printItemsIndented_eq (depth : Nat) (items : List Value) :
    printItemsIndented depth items = items.map (printIndented depth) := by
  induction items with
  | nil => rfl
  | cons v r ih => rw [printItemsIndented, ih, List.map_cons]

theorem printMembersIndented_eq (depth : Nat) (members : List (String × Value)) :
    printMembersIndented depth members =
      members.map fun m => Text.jsonQuoted m.1 ++ ": " ++ m.2.printIndented depth := by
  induction members with
  | nil => rfl
  | cons m r ih => rw [printMembersIndented, ih, List.map_cons]

theorem printItems_eq (f : Style) (items : List Value) :
    printItems f items = items.map (print f) := by
  induction items with
  | nil => rfl
  | cons v r ih => rw [printItems, ih, List.map_cons]

theorem printMembers_eq (f : Style) (members : List (String × Value)) :
    printMembers f members =
      members.map fun m => f.quoted m.1 ++ f.memberSeparator ++ m.2.print f := by
  induction members with
  | nil => rfl
  | cons m r ih => rw [printMembers, ih, List.map_cons]

def newLine (depth : Nat) : List Char := '\n' :: List.replicate (2 * depth) ' '

theorem isSpace_newLine (depth : Nat) : ∀ c ∈ newLine depth, Reader.isSpace c = true := by
  intro c hc
  rcases List.mem_cons.1 hc with rfl | hc
  · rfl
  · obtain rfl := List.eq_of_mem_replicate hc
    rfl

theorem toList_block {opening closing : String} {items : List String} (depth : Nat)
    (h : items ≠ []) :
    (block opening closing depth items).toList = opening.toList ++ (newLine (depth + 1) ++
      ((',' :: newLine (depth + 1)).intercalate (items.map String.toList) ++
        (newLine depth ++ closing.toList))) := by
  have hitems : items.isEmpty = false := List.isEmpty_eq_false_iff.2 h
  rw [block, hitems]
  simp [String.toList_intercalate, newLine]

theorem spells_block_arr {items : List Value} {texts : List String} (depth : Nat)
    (h : List.Forall₂ (Reader.Spells limited) (texts.map String.toList) items) :
    Reader.Spells limited (block "[" "]" depth texts).toList (.arr items) := by
  have hnil : ∀ c ∈ ([] : List Char), Reader.isSpace c = true := by simp
  by_cases htexts : texts = []
  · subst htexts
    cases h
    have htext : (block "[" "]" depth []).toList = ['[', ']'] := String.toList_append
    rw [htext]
    exact Reader.spells_arr hnil hnil hnil List.Forall₂.nil
  · rw [toList_block depth htexts]
    exact Reader.spells_arr (isSpace_newLine _) (isSpace_newLine _) (isSpace_newLine _) h

theorem spells_block_obj {members : List (String × Value)} {texts : List String}
    (depth : Nat)
    (h : List.Forall₂ (Reader.SpellsMember limited) (texts.map String.toList) members) :
    Reader.Spells limited (block "\x7b" "\x7d" depth texts).toList
      (.obj (OrderedMap.ofEntries members)) := by
  have hnil : ∀ c ∈ ([] : List Char), Reader.isSpace c = true := by simp
  by_cases htexts : texts = []
  · subst htexts
    cases h
    have htext : (block "\x7b" "\x7d" depth []).toList = ['\x7b', '\x7d'] := String.toList_append
    rw [htext]
    exact Reader.spells_obj hnil hnil hnil List.Forall₂.nil
  · rw [toList_block depth htexts]
    exact Reader.spells_obj (isSpace_newLine _) (isSpace_newLine _) (isSpace_newLine _) h

theorem spells_null : Reader.Spells limited "null".toList .null := by
  intro fuel rest hfuel _
  obtain ⟨f, rfl⟩ : ∃ f, fuel = f + 1 := Nat.exists_eq_succ_of_ne_zero (by omega)
  have htext : "null".toList = ['n', 'u', 'l', 'l'] := by decide
  rw [htext]
  rfl

theorem spells_bool (b : Bool) :
    Reader.Spells limited (if b then "true" else "false").toList (.bool b) := by
  intro fuel rest hfuel _
  obtain ⟨f, rfl⟩ : ∃ f, fuel = f + 1 := Nat.exists_eq_succ_of_ne_zero (by omega)
  have htrue : "true".toList = ['t', 'r', 'u', 'e'] := by decide
  have hfalse : "false".toList = ['f', 'a', 'l', 's', 'e'] := by decide
  cases b with
  | true =>
    rw [if_pos rfl, htrue]
    rfl
  | false =>
    rw [if_neg Bool.false_ne_true, hfalse]
    rfl

theorem Exact.spells_indented {v : Value} (h : Exact limited v) (depth : Nat) :
    Reader.Spells limited (v.printIndented depth).toList v := by
  induction h generalizing depth with
  | null => exact spells_null
  | bool b => exact spells_bool b
  | int hfits => exact Reader.spells_int hfits
  | str s => exact Reader.spells_str s
  | @arr items _ ih =>
    rw [printIndented, printItemsIndented_eq]
    refine spells_block_arr depth ?_
    rw [List.map_map, List.forall₂_map_left_iff]
    exact List.forall₂_same.2 fun v hv => ih v hv (depth + 1)
  | @obj members hkeys _ ih =>
    have hmembers : List.Forall₂ (Reader.SpellsMember limited) ((members.map fun m =>
        Text.jsonQuoted m.1 ++ ": " ++ m.2.printIndented (depth + 1)).map String.toList)
        members := by
      rw [List.map_map, List.forall₂_map_left_iff]
      refine List.forall₂_same.2 fun m hm => ⟨[' '], _, by decide, ih m hm (depth + 1), ?_⟩
      simp
    have hblock := spells_block_obj depth hmembers
    rw [OrderedMap.ofEntries_of_nodup hkeys] at hblock
    rw [printIndented, printMembersIndented_eq]
    exact hblock

theorem Exact.spells_compact {v : Value} (h : Exact limited v) :
    Reader.Spells limited (v.print .compact).toList v := by
  have hnone : ∀ c ∈ ([] : List Char), Reader.isSpace c = true := by simp
  induction h with
  | null => exact spells_null
  | bool b => exact spells_bool b
  | int hfits => exact Reader.spells_int hfits
  | str s => exact Reader.spells_str s
  | @arr items _ ih =>
    have hitems : List.Forall₂ (Reader.Spells limited)
        ((items.map (print .compact)).map String.toList) items := by
      rw [List.map_map, List.forall₂_map_left_iff]
      exact List.forall₂_same.2 ih
    have hrow := Reader.spells_arr hnone hnone hnone hitems
    rw [print, printItems_eq, String.toList_append, String.toList_append,
      String.toList_intercalate]
    exact hrow
  | @obj members hkeys _ ih =>
    have hmembers : List.Forall₂ (Reader.SpellsMember limited) ((members.map fun m =>
        Text.jsonQuoted m.1 ++ ":" ++ m.2.print .compact).map String.toList) members := by
      rw [List.map_map, List.forall₂_map_left_iff]
      refine List.forall₂_same.2 fun m hm => ⟨[], _, hnone, ih m hm, ?_⟩
      simp
    have hrow := Reader.spells_obj hnone hnone hnone hmembers
    rw [OrderedMap.ofEntries_of_nodup hkeys] at hrow
    rw [print, printMembers_eq, String.toList_append, String.toList_append,
      String.toList_intercalate]
    exact hrow

theorem Exact.eq_of_print_eq {v v' : Value} (h : Exact limited v) (h' : Exact limited v')
    (htext : v.print .compact = v'.print .compact) : v = v' := by
  have hread := h.spells_compact.document
  rw [htext, h'.spells_compact.document] at hread
  exact (Except.ok.inj hread).symm

def isPlain (c : Char) : Bool := Text.isVisible c || c == ' ' || c == '\n'

theorem isPlain_of_mem_jsonQuoted {s : String} {c : Char} (h : c ∈ (Text.jsonQuoted s).toList) :
    isPlain c = true := by
  rcases Text.mem_jsonQuoted h with hv | ⟨rfl, _⟩
  · simp [isPlain, hv]
  · rfl

theorem isPlain_of_mem_decimalInt {n : Int} {c : Char} (h : c ∈ (Text.decimalInt n).toList) :
    isPlain c = true := by
  have hdigits {m : Nat} (hc : c ∈ (Text.decimal m).toList) : isPlain c = true := by
    rw [Text.decimal, String.toList_ofList] at hc
    have hall : ∀ c ∈ ['0', '1', '2', '3', '4', '5', '6', '7', '8', '9'], isPlain c = true := by
      decide
    exact hall c (Reader.digit_cases (Reader.isDigit_of_mem_toDigits hc))
  cases n with
  | ofNat m => exact hdigits h
  | negSucc m =>
    rw [Text.decimalInt, String.toList_append, List.mem_append] at h
    rcases h with h | h
    · obtain rfl := List.mem_singleton.1 h
      rfl
    · exact hdigits h

theorem isPlain_of_mem_newLine {depth : Nat} {c : Char} (h : c ∈ newLine depth) :
    isPlain c = true := by
  rcases List.mem_cons.1 h with rfl | h
  · rfl
  · obtain rfl := List.eq_of_mem_replicate h
    rfl

theorem isPlain_of_mem_block {opening closing : String} {items : List String} {depth : Nat}
    (hopening : ∀ c ∈ opening.toList, isPlain c = true)
    (hclosing : ∀ c ∈ closing.toList, isPlain c = true)
    (hitems : ∀ text ∈ items, ∀ c ∈ text.toList, isPlain c = true) {c : Char}
    (h : c ∈ (block opening closing depth items).toList) : isPlain c = true := by
  by_cases hne : items = []
  · subst hne
    have htext : (block opening closing depth []).toList = opening.toList ++ closing.toList :=
      String.toList_append
    rw [htext] at h
    rcases List.mem_append.1 h with h | h
    · exact hopening c h
    · exact hclosing c h
  · rw [toList_block depth hne] at h
    simp only [List.mem_append] at h
    rcases h with h | h | h | h | h
    · exact hopening c h
    · exact isPlain_of_mem_newLine h
    · rcases Text.mem_intercalate h with hsep | ⟨l, hl, hc⟩
      · rcases List.mem_cons.1 hsep with rfl | hline
        · rfl
        · exact isPlain_of_mem_newLine hline
      · obtain ⟨text, htext, rfl⟩ := List.mem_map.1 hl
        exact hitems text htext c hc
    · exact isPlain_of_mem_newLine h
    · exact hclosing c h

theorem Exact.isPlain {v : Value} (h : Exact limited v) {depth : Nat} {c : Char}
    (hc : c ∈ (v.printIndented depth).toList) : isPlain c = true := by
  induction h generalizing depth c with
  | null =>
    change c ∈ "null".toList at hc
    revert c
    decide
  | bool b =>
    change c ∈ (if b then "true" else "false").toList at hc
    cases b with
    | true => revert c; decide
    | false => revert c; decide
  | @int n _ => exact isPlain_of_mem_decimalInt hc
  | str s => exact isPlain_of_mem_jsonQuoted hc
  | @arr items _ ih =>
    rw [printIndented, printItemsIndented_eq] at hc
    refine isPlain_of_mem_block (by decide) (by decide) (fun text htext c hc => ?_) hc
    obtain ⟨v, hv, rfl⟩ := List.mem_map.1 htext
    exact ih v hv hc
  | @obj members _ _ ih =>
    rw [printIndented, printMembersIndented_eq] at hc
    refine isPlain_of_mem_block (by decide) (by decide) (fun text htext c hc => ?_) hc
    obtain ⟨m, hm, rfl⟩ := List.mem_map.1 htext
    rw [String.toList_append, String.toList_append, List.mem_append, List.mem_append] at hc
    rcases hc with (hc | hc) | hc
    · exact isPlain_of_mem_jsonQuoted hc
    · revert c
      decide
    · exact ih m hm hc

end ExportBundle.Json
