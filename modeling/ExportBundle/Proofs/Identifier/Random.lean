import ExportBundle.Identifier.Random
import ExportBundle.Proofs.Export.Statements
import Mathlib.Data.List.Induction
import Mathlib.Data.List.Nodup
import Mathlib.Data.List.TakeWhile
import Mathlib.Logic.Function.Basic

/-! What random supplies hand out when they take their tokens from one stream, in whatever order
they draw. Main statement: each draw takes the first token left that suits its supply, and the tokens
in front of it; so all names are safe, and no supply hands out a name twice. -/

namespace ExportBundle.Identifier

theorem isSafe_iff_of_letters {name : String} (h : ∀ c ∈ name.toList, isLetter c = true) :
    isSafe name = true ↔ name ≠ "" ∧ name ∉ reserved := by
  rw [isSafe, isLetters, List.dropWhile_eq_nil_iff.2 h]
  simp

namespace Random

variable {minLength : Int} {issued tokens : List String} {token : String}

/-- The form of a token that has only its letters, from A to Z and from a to z. -/
def lettersOf (token : String) : String :=
  String.ofList (token.toList.filter fun c => 'A' ≤ c ∧ c ≤ 'Z' ∨ 'a' ≤ c ∧ c ≤ 'z')

theorem isLetter_iff {c : Char} : isLetter c = true ↔ 'A' ≤ c ∧ c ≤ 'Z' ∨ 'a' ≤ c ∧ c ≤ 'z' := by
  change (c.isUpper || (decide ('a' ≤ c) && decide (c ≤ 'z'))) = true ↔ _
  rw [Bool.or_eq_true, Bool.and_eq_true, decide_eq_true_iff, decide_eq_true_iff]
  exact or_congr_left decide_eq_true_iff

theorem candidate_eq (token : String) : candidate token = lettersOf token := by
  refine congrArg String.ofList (List.filter_congr fun c _ => ?_)
  rw [Bool.eq_iff_iff, isLetter_iff, decide_eq_true_iff]

theorem isLetter_of_mem_lettersOf {c : Char} (h : c ∈ (lettersOf token).toList) :
    isLetter c = true := by
  rw [lettersOf, String.toList_ofList, List.mem_filter, decide_eq_true_iff] at h
  exact isLetter_iff.2 h.2

/-- A token with a name for a supply that wants `minLength` letters and has handed out `issued`. -/
structure Suits (minLength : Int) (issued : List String) (token : String) : Prop where
  long : minLength ≤ (lettersOf token).length
  ne : lettersOf token ≠ ""
  free : lettersOf token ∉ reserved
  fresh : lettersOf token ∉ issued

theorem accepts_candidate_iff {r : Random} :
    r.accepts (candidate token) = true ↔ Suits r.minLength r.issued token := by
  rw [candidate_eq]
  have hsafe : isSafe (lettersOf token) = true ↔ _ :=
    isSafe_iff_of_letters fun _ => isLetter_of_mem_lettersOf
  simp only [accepts, Bool.and_eq_true, decide_eq_true_eq, hsafe, Bool.not_eq_true',
    List.contains_eq_mem, decide_eq_false_iff_not]
  exact ⟨fun ⟨⟨hlong, hne, hfree⟩, hfresh⟩ => ⟨hlong, hne, hfree, hfresh⟩,
    fun h => ⟨⟨h.long, h.ne, h.free⟩, h.fresh⟩⟩

theorem Suits.isSafeName (h : Suits minLength issued token) : IsSafeName (lettersOf token) :=
  ⟨h.ne, fun _ => isLetter_of_mem_lettersOf, h.free⟩

theorem suits_reverse : Suits minLength issued.reverse token ↔ Suits minLength issued token :=
  ⟨fun h => ⟨h.long, h.ne, h.free, fun hm => h.fresh (List.mem_reverse.2 hm)⟩,
    fun h => ⟨h.long, h.ne, h.free, fun hm => h.fresh (List.mem_reverse.1 hm)⟩⟩

theorem draw_cases (r : Random) (tokens : List String) :
    (∃ skipped token rest, tokens = skipped ++ token :: rest ∧
        (∀ t ∈ skipped, ¬ Suits r.minLength r.issued t) ∧ Suits r.minLength r.issued token ∧
        r.draw tokens =
          (some (lettersOf token), { r with issued := lettersOf token :: r.issued }, rest)) ∨
      (∀ t ∈ tokens, ¬ Suits r.minLength r.issued t) ∧ r.draw tokens = (none, r, []) := by
  induction tokens with
  | nil => exact .inr ⟨nofun, rfl⟩
  | cons token rest ih =>
    by_cases hsuits : Suits r.minLength r.issued token
    · refine .inl ⟨[], token, rest, rfl, nofun, hsuits, ?_⟩
      rw [draw, ← candidate_eq]
      exact if_pos (accepts_candidate_iff.2 hsuits)
    · have hnext : r.draw (token :: rest) = r.draw rest := by
        rw [draw]
        exact if_neg (mt accepts_candidate_iff.1 hsuits)
      rw [hnext]
      rcases ih with ⟨skipped, found, last, rfl, hskipped, hfound, hdraw⟩ | ⟨hnone, hdraw⟩
      · exact .inl ⟨token :: skipped, found, last, rfl,
          List.forall_mem_cons.2 ⟨hsuits, hskipped⟩, hfound, hdraw⟩
      · exact .inr ⟨List.forall_mem_cons.2 ⟨hsuits, hnone⟩, hdraw⟩

end Random

/-- Random supplies with one stream of tokens for all of them. -/
structure Sharing (ι : Type) where
  supply : ι → Random
  tokens : List String

namespace Sharing

open Identifier.Random (lettersOf Suits suits_reverse)

variable {ι : Type} [DecidableEq ι]

def start (minLength : ι → Int) (tokens : List String) : Sharing ι :=
  ⟨fun i => ⟨minLength i, []⟩, tokens⟩

def draw (s : Sharing ι) (i : ι) : Option String × Sharing ι :=
  let (name, supply, rest) := (s.supply i).draw s.tokens
  (name, ⟨Function.update s.supply i supply, rest⟩)

def after (s : Sharing ι) : List ι → Sharing ι
  | [] => s
  | i :: r => (s.draw i).2.after r

/-- The names that are handed out in a history, each with the supply it comes from. -/
def handedOut (s : Sharing ι) : List ι → List (ι × String)
  | [] => []
  | i :: r => ((s.draw i).1.map fun name => (i, name)).toList ++ (s.draw i).2.handedOut r

def handedOutBy (s : Sharing ι) (history : List ι) (i : ι) : List String :=
  ((s.handedOut history).filter fun e => e.1 = i).map (·.2)

theorem after_concat (s : Sharing ι) (history : List ι) (i : ι) :
    s.after (history ++ [i]) = ((s.after history).draw i).2 := by
  induction history generalizing s with
  | nil => rfl
  | cons j r ih => exact ih (s.draw j).2

theorem handedOut_concat (s : Sharing ι) (history : List ι) (i : ι) :
    s.handedOut (history ++ [i]) = s.handedOut history ++
      (((s.after history).draw i).1.map fun name => (i, name)).toList := by
  induction history generalizing s with
  | nil => simp [handedOut, after]
  | cons j r ih => rw [List.cons_append, handedOut, ih, handedOut, List.append_assoc, after]

theorem handedOutBy_concat (s : Sharing ι) (history : List ι) (i j : ι) :
    s.handedOutBy (history ++ [i]) j = s.handedOutBy history j ++
      if i = j then ((s.after history).draw i).1.toList else [] := by
  rw [handedOutBy, handedOut_concat, List.filter_append, List.map_append, handedOutBy]
  congr 1
  cases ((s.after history).draw i).1 <;> by_cases hij : i = j <;> simp [hij]

/-- One draw takes the first token that suits the supply, or runs out of tokens; the other supplies
stay as they are. -/
theorem draw_cases (s : Sharing ι) (i : ι) :
    (∃ skipped token rest, s.tokens = skipped ++ token :: rest ∧
        (∀ t ∈ skipped, ¬ Suits (s.supply i).minLength (s.supply i).issued t) ∧
        Suits (s.supply i).minLength (s.supply i).issued token ∧
        s.draw i = (some (lettersOf token), ⟨Function.update s.supply i
          ⟨(s.supply i).minLength, lettersOf token :: (s.supply i).issued⟩, rest⟩)) ∨
      (∀ t ∈ s.tokens, ¬ Suits (s.supply i).minLength (s.supply i).issued t) ∧
        s.draw i = (none, ⟨s.supply, []⟩) := by
  unfold draw
  rcases Random.draw_cases (s.supply i) s.tokens with
    ⟨skipped, token, rest, htokens, hskipped, hsuits, hdraw⟩ | ⟨hnone, hdraw⟩
  · refine .inl ⟨skipped, token, rest, htokens, hskipped, hsuits, ?_⟩
    rw [hdraw]
  · refine .inr ⟨hnone, ?_⟩
    rw [hdraw]
    simp

variable (minLength : ι → Int) (tokens : List String)

theorem supply_after (history : List ι) (i : ι) :
    ((start minLength tokens).after history).supply i =
      ⟨minLength i, ((start minLength tokens).handedOutBy history i).reverse⟩ := by
  induction history using List.reverseRecOn with
  | nil => rfl
  | append_singleton history j ih =>
    rw [after_concat, handedOutBy_concat]
    rcases draw_cases ((start minLength tokens).after history) j with
      ⟨_, _, _, _, _, _, hdraw⟩ | ⟨_, hdraw⟩
    · rw [hdraw]
      by_cases hij : j = i
      · subst hij
        simp [ih]
      · simp [hij, Ne.symm hij, ih]
    · rw [hdraw]
      simp [ih]

/-- What the supply `i` draws comes from the first token left that suits, and that one is the last
token it takes. It gets nothing only if no token suits. -/
def TakesFirst (s : Sharing ι) (i : ι) (suits : String → Prop) : Prop :=
  (∃ skipped token, s.tokens = skipped ++ token :: (s.draw i).2.tokens ∧
      (∀ t ∈ skipped, ¬ suits t) ∧ suits token ∧ (s.draw i).1 = some (lettersOf token)) ∨
    (∀ t ∈ s.tokens, ¬ suits t) ∧ (s.draw i).1 = none

theorem takesFirst_after (history : List ι) (i : ι) :
    ((start minLength tokens).after history).TakesFirst i
      (Suits (minLength i) ((start minLength tokens).handedOutBy history i)) := by
  have hcases := draw_cases ((start minLength tokens).after history) i
  simp only [supply_after, suits_reverse] at hcases
  rcases hcases with ⟨skipped, token, rest, htokens, hskipped, hsuits, hdraw⟩ | ⟨hnone, hdraw⟩
  · exact .inl ⟨skipped, token, by rw [hdraw, htokens], hskipped, hsuits, by rw [hdraw]⟩
  · exact .inr ⟨hnone, by rw [hdraw]⟩

theorem isSafeName_of_mem_handedOut (history : List ι) :
    ∀ e ∈ (start minLength tokens).handedOut history, IsSafeName e.2 := by
  induction history using List.reverseRecOn with
  | nil => nofun
  | append_singleton history i ih =>
    rw [handedOut_concat]
    intro e he
    rcases List.mem_append.1 he with he | he
    · exact ih e he
    · rcases takesFirst_after minLength tokens history i with
        ⟨_, token, _, _, hsuits, hname⟩ | ⟨_, hname⟩
      · rw [hname] at he
        obtain rfl := List.mem_singleton.1 he
        exact hsuits.isSafeName
      · rw [hname] at he
        cases he

theorem nodup_handedOutBy (history : List ι) (i : ι) :
    ((start minLength tokens).handedOutBy history i).Nodup := by
  induction history using List.reverseRecOn with
  | nil => exact List.nodup_nil
  | append_singleton history j ih =>
    rw [handedOutBy_concat]
    by_cases hij : j = i
    · subst hij
      rw [if_pos rfl]
      rcases takesFirst_after minLength tokens history j with
        ⟨_, token, _, _, hsuits, hname⟩ | ⟨_, hname⟩
      · rw [hname]
        exact List.nodup_append.2 ⟨ih, List.nodup_singleton _, fun name hmem name' hnew he =>
          hsuits.fresh (List.mem_singleton.1 hnew ▸ he ▸ hmem)⟩
      · rw [hname]
        simpa using ih
    · rw [if_neg hij]
      simpa using ih

/-- However the draws of supplies that share a stream follow each other, each of them takes the
first token left that suits: with enough letters, not reserved, and new to the supply that draws. All
names that are handed out are safe, and no supply hands out a name twice. -/
theorem shared_stream_draws (history : List ι) :
    (∀ i, ((start minLength tokens).after history).TakesFirst i
      (Suits (minLength i) ((start minLength tokens).handedOutBy history i))) ∧
    (∀ e ∈ (start minLength tokens).handedOut history, IsSafeName e.2) ∧
    ∀ i, ((start minLength tokens).handedOutBy history i).Nodup :=
  ⟨takesFirst_after minLength tokens history, isSafeName_of_mem_handedOut minLength tokens history,
    nodup_handedOutBy minLength tokens history⟩

/-- A reserved word is passed over, and so is what has too few letters; a name that one supply has
handed out is new to the other, but not to itself. -/
theorem shared_stream_draws_two_supplies :
    let s : Sharing Bool := start (fun b => if b then 2 else 3)
      ["a1b", "v-ar", "b_", "Zé-z9y", "ab", "zzy", "ab", "Z[zy", "z.zy", "zzy", "c_d"]
    s.handedOut [true, false, true, false, true] =
        [(true, "ab"), (false, "Zzy"), (true, "zzy"), (false, "zzy"), (true, "cd")] ∧
      ∀ b, (s.handedOutBy [true, false, true, false, true] b).Nodup := by
  intro s
  exact ⟨by decide +kernel, (shared_stream_draws _ _ _).2.2⟩

end Sharing

end ExportBundle.Identifier
