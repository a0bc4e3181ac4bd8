import Reckon.Proofs.Locations

/-!
# Line numbers count line feeds

The line that scanning gives to a token or a fault, against the source itself.

**Places.**  A token is on the line on which its piece ends.  A stray character is no line feed, so
it ends where it starts, and what is never closed ends with the source (`isFault_of_mem_place`).

**Order.**  A piece does not end above the one before it, so the lines of what the pieces yield
never go back (`pairwise_locate`).
-/

namespace Reckon

/-! ## Tokens and faults at their places -/

lemma filterMap_locate {α : Type} (yielded : Located → Option α) (pieces : List Segment) :
    (locate 1 pieces).filterMap yielded =
      (place [] pieces).filterMap fun x => yielded ⟨x.piece, 1 + Text.lineFeeds x.upTo⟩ := by
  rw [locate_eq_map_place, List.filterMap_map]
  rfl

/-- A token at its place: it is the token that the piece denotes, on the line on which the piece
ends. -/
structure Placed.IsToken (x : Placed) (t : Token) : Prop where
  denotes : Segment.Denotes x.piece t
  line_eq : t.line = 1 + Text.lineFeeds x.upTo

/-- A fault at its place.  A stray character is on the line that it stands on; what is never closed
goes on to the end of the source and is on the last line. -/
inductive Placed.IsFault (source : List Char) : Placed → Diagnostic → Prop where
  | stray {before : List Char} {c : Char} :
      IsFault source ⟨before, ⟨.stray, [c]⟩⟩
        ⟨.unexpectedCharacter (String.ofList [c]), 1 + Text.lineFeeds before⟩
  | openString {before text : List Char} :
      IsFault source ⟨before, ⟨.openString, text⟩⟩
        ⟨.unterminatedString, 1 + Text.lineFeeds source⟩
  | openComment {before text : List Char} :
      IsFault source ⟨before, ⟨.openComment, text⟩⟩
        ⟨.unterminatedComment, 1 + Text.lineFeeds source⟩

lemma isToken_of_mem_place {source : List Char} {x : Placed}
    (h : x ∈ place [] (segments source)) :
    if x.piece.form.isToken then
      ∃ t, (Located.mk x.piece (1 + Text.lineFeeds x.upTo)).token? = some t ∧ x.IsToken t
    else (Located.mk x.piece (1 + Text.lineFeeds x.upTo)).token? = none := by
  obtain ⟨after, -, hfits⟩ := exists_of_mem_place_segments h
  have hyields := hfits.lexeme.token? (1 + Text.lineFeeds x.upTo)
  split
  · rename_i htoken
    rw [if_pos htoken] at hyields
    obtain ⟨t, ht, hdenotes⟩ := hyields
    exact ⟨t, ht, hdenotes, (Located.lexeme_of_token? ht).2⟩
  · rename_i htoken
    rwa [if_neg htoken] at hyields

lemma isFault_of_mem_place {source : List Char} {x : Placed}
    (h : x ∈ place [] (segments source)) :
    if x.piece.form.isFault then
      ∃ d, (Located.mk x.piece (1 + Text.lineFeeds x.upTo)).diagnostic? = some d ∧
        x.IsFault source d
    else (Located.mk x.piece (1 + Text.lineFeeds x.upTo)).diagnostic? = none := by
  obtain ⟨after, hsource, hlex, hlast⟩ := exists_of_mem_place_segments h
  obtain ⟨before, form, text⟩ := x
  have hopen : form.isOpen = true → Placed.upTo ⟨before, form, text⟩ = source := by
    intro hopen
    rw [hsource, hlast hopen, List.append_nil]
  cases hlex with
  | @stray c hother =>
      have hfeed : c ≠ '\n' := by
        rintro rfl
        exact Bool.noConfusion hother.2.1
      have hline : Text.lineFeeds (Placed.upTo ⟨before, .stray, [c]⟩) = Text.lineFeeds before := by
        simp [Placed.upTo, hfeed]
      rw [hline]
      exact ⟨_, rfl, .stray⟩
  | openString _ =>
      rw [hopen rfl]
      exact ⟨_, rfl, .openString⟩
  | openComment _ =>
      rw [hopen rfl]
      exact ⟨_, rfl, .openComment⟩
  | _ => rfl

/-! ## Order -/

/-- Pieces end further and further down. -/
lemma pairwise_locate (line : Nat) (pieces : List Segment) :
    (locate line pieces).Pairwise (·.line ≤ ·.line) := by
  induction pieces generalizing line with
  | nil => exact .nil
  | cons piece pieces ih =>
      rw [locate_cons]
      refine .cons (fun located hmem => ?_) (ih _)
      rw [locate_eq_map_place] at hmem
      obtain ⟨x, -, rfl⟩ := List.mem_map.mp hmem
      exact Nat.le_add_right _ _

lemma pairwise_tokens (source : String) : (scan source).tokens.Pairwise (·.line ≤ ·.line) := by
  refine List.pairwise_append.mpr ⟨?_, List.pairwise_singleton _ _, ?_⟩
  · refine List.pairwise_filterMap.mpr ((pairwise_locate 1 _).imp ?_)
    intro first second hle t ht t' ht'
    rw [(Located.lexeme_of_token? ht).2, (Located.lexeme_of_token? ht').2]
    exact hle
  · intro t ht last hlast
    obtain rfl := List.mem_singleton.mp hlast
    obtain ⟨located, hmem, htoken⟩ := List.mem_filterMap.mp ht
    obtain ⟨before, after, hsource, hline, -⟩ := exists_of_mem_locate_segments hmem
    rw [(Located.lexeme_of_token? htoken).2, hline, hsource, Text.lineFeeds_append _ after]
    exact Nat.add_le_add_left (Nat.le_add_right _ _) 1

lemma pairwise_diagnostics (source : String) :
    (scan source).diagnostics.Pairwise (·.line ≤ ·.line) := by
  refine List.pairwise_filterMap.mpr ((pairwise_locate 1 _).imp ?_)
  intro first second hle d hd d' hd'
  obtain ⟨fault, -, rfl⟩ := Option.map_eq_some_iff.mp hd
  obtain ⟨fault', -, rfl⟩ := Option.map_eq_some_iff.mp hd'
  exact hle

/-- **Line numbers are exact.**  Cut up at the longest match, a source has a token for every piece
with the form of one, on the line on which the piece ends, and behind them the end of the input on
the last line of the source.  It has a fault for every piece with the form of one, a stray character
on its own line and what is never closed on the last line.  Neither the lines of the tokens nor
those of the faults go back. -/
theorem scan_lines_exact (source : String) :
    ∃ pieces, Decomposes source.toList pieces ∧
      (∃ tokens, List.Forall₂ Placed.IsToken
          ((place [] pieces).filter (·.piece.form.isToken)) tokens ∧
        (scan source).tokens = tokens ++ [Token.endAt (1 + Text.lineFeeds source.toList)]) ∧
      List.Forall₂ (Placed.IsFault source.toList)
        ((place [] pieces).filter (·.piece.form.isFault)) (scan source).diagnostics ∧
      (scan source).tokens.Pairwise (·.line ≤ ·.line) ∧
      (scan source).diagnostics.Pairwise (·.line ≤ ·.line) := by
  refine ⟨segments source.toList, decomposes_segments _, ⟨_, ?_, rfl⟩, ?_,
    pairwise_tokens source, pairwise_diagnostics source⟩
  · rw [filterMap_locate]
    exact forall₂_filter_filterMap fun x hmem => isToken_of_mem_place hmem
  · show List.Forall₂ _ _ ((locate 1 (segments source.toList)).filterMap Located.diagnostic?)
    rw [filterMap_locate]
    exact forall₂_filter_filterMap fun x hmem => isFault_of_mem_place hmem

end Reckon
