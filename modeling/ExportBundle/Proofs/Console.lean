import ExportBundle.Console.Screen

/-! The console shows every error whose message has no tags: without tags the message is one piece,
and the only look is the one of the word in front of it, which can always be read. -/

namespace ExportBundle.Console

def Tagless (cs : List Char) : Prop := ∀ v, v <:+ cs → tagAt? v = none

theorem tagless_of_untagged {message : String} (h : Display.Untagged message) :
    Tagless message.toList := by
  intro v hv
  rw [tagAt?]
  split
  · rename_i c r hbracket
    have hsuffix : '[' :: c :: r <:+ message.toList :=
      hbracket ▸ (List.drop_suffix _ _).trans hv
    have hc : startsTag c = false := by simpa [startsTag, and_assoc] using h c r hsuffix
    simp [hc]
  · rfl

theorem piecesFrom_of_tagless {cs : List Char} (h : Tagless cs) (pending : List Char) :
    piecesFrom 0 pending cs = Piece.between (cs.reverse ++ pending) := by
  induction cs generalizing pending with
  | nil => rfl
  | cons c r ih =>
    rw [piecesFrom, h _ (List.suffix_refl _)]
    dsimp only
    rw [ih fun v hv => h v (hv.trans (List.suffix_cons c r))]
    simp

theorem pieces_error {message : String} (h : Tagless message.toList) :
    pieces ("[red]Error:[/red] " ++ message).toList =
      [.opening ['r', 'e', 'd'] [], .text ['E', 'r', 'r', 'o', 'r', ':'], .closing ['r', 'e', 'd'],
        .text (unescape (' ' :: message.toList))] := by
  have hopen (cs : List Char) : piecesFrom 0 [] ('[' :: 'r' :: 'e' :: 'd' :: ']' :: cs) =
      Piece.between [] ++ Tag.pieces ⟨0, ['r', 'e', 'd']⟩ ++ piecesFrom 0 [] cs := rfl
  have hword (cs : List Char) : piecesFrom 0 [] ('E' :: 'r' :: 'r' :: 'o' :: 'r' :: ':' :: cs) =
      piecesFrom 0 [':', 'r', 'o', 'r', 'r', 'E'] cs := rfl
  have hclose (pending cs : List Char) :
      piecesFrom 0 pending ('[' :: '/' :: 'r' :: 'e' :: 'd' :: ']' :: ' ' :: cs) =
        Piece.between pending ++ Tag.pieces ⟨0, ['/', 'r', 'e', 'd']⟩ ++ piecesFrom 0 [' '] cs := rfl
  have hlast : Piece.between (message.toList.reverse ++ [' ']) =
      [.text (unescape (' ' :: message.toList))] := by
    simp [Piece.between]
  rw [String.toList_append]
  change piecesFrom 0 [] ('[' :: 'r' :: 'e' :: 'd' :: ']' :: 'E' :: 'r' :: 'r' :: 'o' :: 'r' :: ':' ::
    '[' :: '/' :: 'r' :: 'e' :: 'd' :: ']' :: ' ' :: message.toList) = _
  rw [hopen, hword, hclose, piecesFrom_of_tagless h, hlast]
  rfl

theorem ofMessage_error {message : String} (h : Tagless message.toList) :
    ∃ t, StyledText.ofMessage ("[red]Error:[/red] " ++ message) = .ok t ∧
      t.spans = [⟨0, 6, ['r', 'e', 'd', ' ']⟩] := by
  rw [StyledText.ofMessage, pieces_error h]
  exact ⟨_, rfl, rfl⟩

theorem looks_subset (t : StyledText) : ∀ s ∈ t.looks, s ∈ t.spans := by
  unfold StyledText.looks
  split
  · exact fun _ hs => hs
  · exact fun s hs => (List.mem_filter.1 hs).1

theorem checkLooks_eq_ok {t : StyledText} (h : ∀ s ∈ t.spans, StyledText.checkLook s = .ok ()) :
    t.checkLooks = .ok () := by
  have hall (l : List Span) (hl : ∀ s ∈ l, StyledText.checkLook s = .ok ()) :
      l.forM StyledText.checkLook = .ok () := by
    induction l with
    | nil => rfl
    | cons s r ih =>
      change StyledText.checkLook s >>= (fun _ => r.forM StyledText.checkLook) = _
      rw [hl s List.mem_cons_self]
      exact ih fun s hs => hl s (List.mem_cons_of_mem _ hs)
  exact hall _ fun s hs => h s (looks_subset t s hs)

instance lenient : Display.Lenient where
  shows message h := by
    obtain ⟨t, ht, hspans⟩ := ofMessage_error (tagless_of_untagged h)
    have hlooks : t.checkLooks = .ok () := by
      refine checkLooks_eq_ok fun s hs => ?_
      rw [hspans, List.mem_singleton] at hs
      subst hs
      rfl
    have hdraw : t.draw = .ok (t.lines.map String.ofList) := by
      rw [StyledText.draw, hlooks]
      rfl
    refine ⟨t.lines.map String.ofList, ?_⟩
    change ((StyledText.ofMessage _).mapError MarkupError.refusal >>=
      fun t => t.draw.mapError MarkupError.refusal) = _
    rw [ht]
    change t.draw.mapError MarkupError.refusal = _
    rw [hdraw]
    rfl

end ExportBundle.Console
