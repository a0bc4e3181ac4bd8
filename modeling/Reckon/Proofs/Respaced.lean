import Reckon.Proofs.Unplaced

/-!
# Scanning the texts of tokens again

The texts of the tokens of a source, with single blanks between them, are a source of their own.  It
leaves out comments, line feeds and faults, and every token stands where a blank can follow it.

**Pieces.**  Tokens have closed forms, and no closed form but a comment up to the end of its line
can grow by a blank.  So pieces with blanks between them are what their text is cut up into
(`segments_intersperse`), whichever pieces stand next to each other.

**Tokens.**  What token a piece is depends on the piece, but for the line (`unplaced_tokensFrom`).
The blanks are none, and so the tokens come back, each on a line of its own.

**Running.**  Where there are no faults to leave out, the new source comes to what the first does.
-/

namespace Reckon

/-! ## Pieces -/

/-- The blank that stands between two texts. -/
def Segment.gap : Segment :=
  ⟨.blank, [' ']⟩

/-- Gaps yield nothing, so that what pieces yield does not depend on the gaps between them. -/
lemma filterMap_intersperse {α β : Type} {yielded : α → Option β} {gap : α}
    (h : yielded gap = none) (l : List α) :
    (l.intersperse gap).filterMap yielded = l.filterMap yielded := by
  induction l with
  | nil => rfl
  | cons a l ih =>
      cases l with
      | nil => rfl
      | cons b l =>
          rw [List.intersperse_cons_cons, ← List.singleton_append, List.filterMap_append,
            List.filterMap_cons_none h, ih, ← List.filterMap_append, List.singleton_append]

/-- The form of a token is closed, and is not the one that goes on to the end of its line. -/
lemma Segment.Form.closed_of_isToken {form : Form} (h : form.isToken = true) :
    form ≠ .lineComment ∧ form.isOpen = false := by
  refine ⟨?_, ?_⟩
  · rintro rfl
    cases h
  · cases form <;> first | rfl | cases h

lemma flatMap_text_intersperse (pieces : List Segment) :
    (pieces.intersperse Segment.gap).flatMap Segment.text =
      [' '].intercalate (pieces.map Segment.text) := by
  induction pieces with
  | nil => rfl
  | cons piece pieces ih =>
      cases pieces with
      | nil => simp
      | cons next pieces =>
          rw [List.intersperse_cons_cons, List.flatMap_cons, List.flatMap_cons, ih]
          simp only [List.map_cons, List.intercalate_cons_cons, List.append_assoc]
          rfl

/-- Tokens with gaps between them are the pieces of their text. -/
lemma segments_intersperse {pieces : List Segment}
    (h : ∀ piece ∈ pieces, piece.form.isToken = true ∧ Segment.Lexeme piece.form piece.text) :
    segments ((pieces.intersperse Segment.gap).flatMap Segment.text) =
      pieces.intersperse Segment.gap := by
  induction pieces with
  | nil => exact segments_nil
  | cons piece pieces ih =>
      rw [List.forall_mem_cons] at h
      obtain ⟨⟨htoken, hlex⟩, hrest⟩ := h
      obtain ⟨hform, hopen⟩ := Segment.Form.closed_of_isToken htoken
      cases pieces with
      | nil =>
          have hend : Delimits [] := by simp [Delimits]
          simpa using segments_literal hlex hform hopen hend
      | cons next pieces =>
          have hspaced : ∀ text, Delimits (' ' :: text) := by simp [Delimits]
          rw [List.intersperse_cons_cons, List.flatMap_cons, List.flatMap_cons, Segment.gap,
            List.singleton_append, segments_literal hlex hform hopen (hspaced _), segments_space]
          exact congrArg (piece :: Segment.gap :: ·) (ih hrest)

/-! ## Tokens -/

/-- The token that a piece is, as if it were on the first line. -/
def Segment.token? (piece : Segment) : Option Token :=
  (Located.mk piece 1).token?

/-- What each piece yields without its line, pieces yield without their lines. -/
lemma map_filterMap_locate {α β : Type} {yielded : Located → Option α} {without : α → β}
    {own : Segment → Option β} (h : ∀ located, (yielded located).map without = own located.segment)
    (line : Nat) (pieces : List Segment) :
    ((locate line pieces).filterMap yielded).map without = pieces.filterMap own := by
  conv_rhs => rw [← map_segment_locate line pieces, List.filterMap_map]
  rw [List.map_filterMap]
  exact List.filterMap_congr fun located _ => h located

/-- Without lines, tokens depend on the pieces only. -/
lemma unplaced_tokensFrom (line : Nat) (pieces : List Segment) :
    (tokensFrom line pieces).map Token.unplaced = pieces.filterMap Segment.token? := by
  refine map_filterMap_locate (fun located => ?_) line pieces
  simp only [Segment.token?, Located.token?, Option.map_map]
  rfl

/-- Without lines, faults depend on the pieces only. -/
lemma faults_locate (line : Nat) (pieces : List Segment) :
    ((locate line pieces).filterMap Located.diagnostic?).map Diagnostic.fault =
      pieces.filterMap Segment.fault? := by
  refine map_filterMap_locate (fun located => ?_) line pieces
  simp [Located.diagnostic?, Function.comp_def]

/-- A piece with the form of a token is a token with its text, and any other is none. -/
lemma Segment.token?_of_form (piece : Segment) :
    if piece.form.isToken then ∃ t, piece.token? = some t ∧ String.ofList piece.text = t.lexeme
    else piece.token? = none := by
  obtain ⟨form, text⟩ := piece
  cases form <;> first | exact ⟨_, rfl, rfl⟩ | rfl

/-- The pieces that are tokens. -/
def tokenPieces (pieces : List Segment) : List Segment :=
  pieces.filter (·.form.isToken)

lemma filterMap_tokenPieces (pieces : List Segment) :
    (tokenPieces pieces).filterMap Segment.token? = pieces.filterMap Segment.token? := by
  rw [tokenPieces, List.filterMap_filter]
  refine List.filterMap_congr fun piece _ => ?_
  have hform := piece.token?_of_form
  split at hform
  · rename_i htoken
    rw [if_pos htoken]
  · rename_i htoken
    rw [if_neg htoken, hform]

/-- The texts of tokens are the texts of their pieces. -/
lemma lexemes_tokensFrom (line : Nat) (pieces : List Segment) :
    (tokensFrom line pieces).map Token.lexeme =
      (tokenPieces pieces).map fun piece => String.ofList piece.text := by
  have hlexemes : (tokensFrom line pieces).map Token.lexeme =
      ((tokensFrom line pieces).map Token.unplaced).map Token.lexeme := by
    rw [List.map_map]
    rfl
  rw [hlexemes, unplaced_tokensFrom, eq_comm, ← List.forall₂_eq_eq_eq, List.forall₂_map_left_iff,
    List.forall₂_map_right_iff]
  exact forall₂_filter_filterMap fun piece _ => piece.token?_of_form

/-- The texts of tokens with single blanks between them. -/
def respaced (tokens : List Token) : String :=
  " ".intercalate (tokens.map Token.lexeme)

/-- Whether two tokens have the same kind, text and literal. -/
def Token.Matches (t t' : Token) : Prop :=
  t'.kind = t.kind ∧ t'.lexeme = t.lexeme ∧ t'.literal = t.literal

lemma Token.matches_iff (t t' : Token) : t.Matches t' ↔ t.unplaced = t'.unplaced := by
  simp [Matches, unplaced, eq_comm]

lemma toList_respaced (line : Nat) (pieces : List Segment) :
    (respaced (tokensFrom line pieces)).toList =
      ((tokenPieces pieces).intersperse Segment.gap).flatMap Segment.text := by
  have htexts : ((tokenPieces pieces).map fun piece => String.ofList piece.text).map String.toList =
      (tokenPieces pieces).map Segment.text := by
    simp [Function.comp_def]
  rw [respaced, lexemes_tokensFrom, String.toList_intercalate, htexts, flatMap_text_intersperse]
  rfl

/-- The tokens of a source are found again between gaps, and nothing is wrong with the gaps. -/
lemma scan_respaced_tokensFrom (line : Nat) (source : List Char) :
    ∃ again line', scan (respaced (tokensFrom line (segments source))) =
        ⟨again ++ [Token.endAt line'], []⟩ ∧
      again.map Token.unplaced = (tokensFrom line (segments source)).map Token.unplaced := by
  let words := tokenPieces (segments source)
  have hwords : ∀ piece ∈ words,
      piece.form.isToken = true ∧ Segment.Lexeme piece.form piece.text := by
    intro piece hmem
    obtain ⟨hpiece, htoken⟩ := List.mem_filter.mp hmem
    exact ⟨htoken, lexeme_of_mem_segments hpiece⟩
  have hpieces : segments (respaced (tokensFrom line (segments source))).toList =
      words.intersperse Segment.gap := by
    rw [toList_respaced, segments_intersperse hwords]
  have hfaults : (locate 1 (words.intersperse Segment.gap)).filterMap Located.diagnostic? = [] := by
    rw [← List.map_eq_nil_iff (f := Diagnostic.fault), faults_locate, filterMap_intersperse rfl,
      List.filterMap_eq_nil_iff]
    exact fun piece hmem => Segment.fault?_of_isToken (hwords piece hmem).1
  refine ⟨tokensFrom 1 (words.intersperse Segment.gap),
    1 + Text.lineFeeds (respaced (tokensFrom line (segments source))).toList, ?_, ?_⟩
  · simp only [scan, hpieces, hfaults]
    rfl
  · rw [unplaced_tokensFrom, unplaced_tokensFrom, filterMap_intersperse rfl, filterMap_tokenPieces]

/-! ## Running -/

/-- **The texts of tokens scan to the same tokens.**  Whatever a source is, scanning the texts of
its tokens with single blanks between them finds nothing wrong, and finds tokens of the same kinds,
texts and literals.  If nothing is wrong with the source itself, then both come to the same value,
or to one and the same fault, on lines that may differ. -/
theorem scan_respaced (source : String) :
    ∃ tokens again line line', (scan source).tokens = tokens ++ [Token.endAt line] ∧
      scan (respaced tokens) = ⟨again ++ [Token.endAt line'], []⟩ ∧
      List.Forall₂ Token.Matches tokens again ∧
      ((scan source).diagnostics = [] →
        (∀ v, run source = .ok v → run (respaced tokens) = .ok v) ∧
        ∀ ds, run source = .error ds → ∃ fault at₁ at₂,
          ds = [⟨fault, at₁⟩] ∧ run (respaced tokens) = .error [⟨fault, at₂⟩]) := by
  let tokens := tokensFrom 1 (segments source.toList)
  obtain ⟨again, line', hscan, hagain⟩ := scan_respaced_tokensFrom 1 source.toList
  refine ⟨tokens, again, 1 + Text.lineFeeds source.toList, line', rfl, hscan, ?_, fun hnone => ?_⟩
  · have hmatches : List.Forall₂ (fun t t' => t.unplaced = t'.unplaced) tokens again := by
      rw [← List.forall₂_map_right_iff, ← List.forall₂_map_left_iff, List.forall₂_eq_eq_eq]
      exact hagain.symm
    exact hmatches.imp fun t t' => (t.matches_iff t').mpr
  · have hsource : scan source =
        ⟨tokens ++ [Token.endAt (1 + Text.lineFeeds source.toList)], []⟩ := by
      rw [← hnone]
      rfl
    refine run_eq_of_unplaced hsource hscan ?_
    rw [List.map_append, List.map_append, hagain]
    rfl

/-- A comment over two lines, a minus sign, and a string that holds what starts a comment. -/
def minusSlashes : String := "/*\n*/-\"//\""

/-- Without the comment the minus sign moves up a line.  The string stays a string. -/
theorem run_minusSlashes_respaced :
    (scan minusSlashes).diagnostics = [] ∧
    run minusSlashes = .error [⟨.operandNotNumber "-" "string", 2⟩] ∧
    ∃ line, run "- \"//\"" = .error [⟨.operandNotNumber "-" "string", line⟩] := by
  have hscan : scan minusSlashes =
      ⟨[⟨.minus, "-", none, 2⟩, ⟨.string, "\"//\"", some (.string "//"), 2⟩] ++ [Token.endAt 2],
        []⟩ := by decide +kernel
  have hnone : (scan minusSlashes).diagnostics = [] := by rw [hscan]
  have hrun : run minusSlashes = .error [⟨.operandNotNumber "-" "string", 2⟩] := by decide +kernel
  obtain ⟨tokens, again, line, line', htokens, -, -, hsame⟩ := scan_respaced minusSlashes
  rw [hscan] at htokens
  obtain ⟨rfl, -⟩ := List.append_inj' htokens rfl
  obtain ⟨fault, before, after, hbefore, hafter⟩ := (hsame hnone).2 _ hrun
  obtain ⟨rfl, rfl⟩ : _ = fault ∧ _ = before := by simpa using hbefore
  exact ⟨hnone, hrun, after, hafter⟩

end Reckon
