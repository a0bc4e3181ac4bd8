import Reckon.Diagnostic.Render
import Reckon.Proofs.Failures
import Reckon.Proofs.Locations
import Reckon.Run

/-!
# Diagnostics point at what they name

Every diagnostic of a run is on a line that the source has, and the line holds what the diagnostic
names.

**Pieces.**  A located piece ends on its line, so the line holds the piece, or the last line of it
if it goes over several (`exists_line_of_mem_locate`).

**Tokens.**  The same of the tokens of a source, and the end of the input is on the last line.
Operators are symbols and stand on one line.

**Diagnostics.**  Faults of the text are pieces, and what reading and evaluation find is blamed on
a token, so each diagnostic is anchored for one of the reasons above.
-/

namespace Reckon

/-! ## Pieces -/

/-- The line on which a piece ends exists, and holds the piece or the last line of it. -/
lemma exists_line_of_mem_locate {source : List Char} {located : Located}
    (h : located ∈ locate 1 (segments source)) :
    ∃ line, Text.line? source located.line = some line ∧
      Text.lastLine located.segment.text <:+: line := by
  obtain ⟨before, after, hsource, hline, -⟩ := exists_of_mem_locate_segments h
  refine ⟨Text.lastLine (before ++ located.segment.text) ++ Text.firstLine after, ?_, ?_⟩
  · rw [hline, hsource]
    exact Text.line?_append _ after
  · have hsuffix := Text.lastLine_suffix_append before located.segment.text
    exact hsuffix.isInfix.trans (List.prefix_append _ _).isInfix

lemma line?_last (source : List Char) :
    Text.line? source (1 + Text.lineFeeds source) = some (Text.lastLine source) := by
  have h := Text.line?_append source []
  rwa [List.append_nil, Text.firstLine, List.takeWhile_nil, List.append_nil] at h

/-! ## Tokens -/

/-- A token of a source is the end of the input, on the last line, or one of its pieces. -/
lemma mem_tokens_scan {source : String} {t : Token} (h : t ∈ (scan source).tokens) :
    t = Token.endAt (1 + Text.lineFeeds source.toList) ∨
      ∃ located ∈ locate 1 (segments source.toList), located.token? = some t := by
  simp only [scan, List.mem_append, List.mem_filterMap, List.mem_singleton] at h
  exact h.symm

/-- The line of a token exists, and holds the token or the last line of it. -/
lemma exists_line_of_mem_tokens {source : String} {t : Token} (h : t ∈ (scan source).tokens) :
    ∃ line, Text.line? source.toList t.line = some line ∧
      Text.lastLine t.lexeme.toList <:+: line := by
  rcases mem_tokens_scan h with rfl | ⟨located, hmem, htoken⟩
  · exact ⟨_, line?_last _, List.nil_infix⟩
  · obtain ⟨hlexeme, hline⟩ := Located.lexeme_of_token? htoken
    rw [hlexeme, hline, String.toList_ofList]
    exact exists_line_of_mem_locate hmem

/-- An operator is a symbol, so it does not go over several lines. -/
lemma Segment.Denotes.lastLine_of_isOperator {piece : Segment} {t : Token} (h : Denotes piece t)
    (hlex : Lexeme piece.form piece.text) (hop : t.kind.isOperator = true) :
    Text.lastLine piece.text = piece.text := by
  cases h with
  | @symbol kind text line =>
      have hall : ∀ symbol ∈ Token.Kind.symbols, '\n' ∉ symbol.1 := by decide
      cases hlex with
      | symbol hmem => exact Text.lastLine_of_not_mem (hall (text, kind) hmem)
  | _ => cases hop

/-- No piece is the end of the input. -/
lemma Segment.Denotes.isEnd_eq_false {piece : Segment} {t : Token} (h : Denotes piece t)
    (hlex : Lexeme piece.form piece.text) : t.isEnd = false := by
  cases h with
  | @symbol kind text line =>
      have hall : ∀ symbol ∈ Token.Kind.symbols, (symbol.2 == .endOfInput) = false := by decide
      cases hlex with
      | symbol hmem => exact hall (text, kind) hmem
  | _ => rfl

/-- A located piece that is a token denotes it. -/
lemma Located.denotes_of_token? {located : Located} {t : Token}
    (hlex : Segment.Lexeme located.segment.form located.segment.text)
    (h : located.token? = some t) : Segment.Denotes located.segment t := by
  have hyields := hlex.token? located.line
  split at hyields
  · obtain ⟨token, htoken, hdenotes⟩ := hyields
    obtain rfl := Option.some.inj (htoken.symm.trans h)
    exact hdenotes
  · exact absurd (hyields.symm.trans h) (by simp)

/-- The line of an operator holds the operator. -/
lemma exists_line_of_isOperator {source : String} {t : Token} (h : t ∈ (scan source).tokens)
    (hop : t.kind.isOperator = true) :
    ∃ line, Text.line? source.toList t.line = some line ∧ t.lexeme.toList <:+: line := by
  rcases mem_tokens_scan h with rfl | ⟨located, hmem, htoken⟩
  · cases hop
  · obtain ⟨_, _, _, _, hfits⟩ := exists_of_mem_locate_segments hmem
    have hdenotes := Located.denotes_of_token? hfits.lexeme htoken
    have hwhole := hdenotes.lastLine_of_isOperator hfits.lexeme hop
    obtain ⟨line, hline, hinfix⟩ := exists_line_of_mem_locate hmem
    obtain ⟨hlexeme, htline⟩ := Located.lexeme_of_token? htoken
    rw [hlexeme, htline, String.toList_ofList]
    exact ⟨line, hline, hwhole ▸ hinfix⟩

/-! ## Diagnostics -/

/-- What the line of a diagnostic is, or holds, by what the diagnostic names.  A token that goes
over several lines is named whole, but only the last of them is on its line. -/
def Diagnostic.Anchored (source : List Char) (d : Diagnostic) (line : List Char) : Prop :=
  match d.fault with
  | .unexpectedCharacter named | .operandNotNumber named _ | .operandNotString named _
  | .operandNotBool named _ => named.toList <:+: line
  | .expectedExpression found | .unterminatedGrouping found =>
    (found = "EOF" ∧ d.line = 1 + Text.lineFeeds source) ∨ Text.lastLine found.toList <:+: line
  | .unterminatedString | .unterminatedComment => d.line = 1 + Text.lineFeeds source
  | .tooDeeplyNested _ | .unsupportedOperator _ => True

/-- The line of a diagnostic exists, and the diagnostic is anchored there. -/
def Diagnostic.PointsInto (source : List Char) (d : Diagnostic) : Prop :=
  ∃ line, Text.line? source d.line = some line ∧ d.Anchored source line

/-- The faults of a text are where the pieces end that they are found in. -/
lemma pointsInto_of_mem_diagnostics {source : String} {d : Diagnostic}
    (h : d ∈ (scan source).diagnostics) : d.PointsInto source.toList := by
  simp only [scan, List.mem_filterMap] at h
  obtain ⟨⟨⟨form, text⟩, number⟩, hmem, hd⟩ := h
  obtain ⟨line, hline, hinfix⟩ := exists_line_of_mem_locate hmem
  obtain ⟨before, after, hsource, hnumber, hlex, hlast⟩ := exists_of_mem_locate_segments hmem
  have hopen : form.isOpen = true → number = 1 + Text.lineFeeds source.toList := by
    intro hopen
    rw [hsource, hlast hopen, List.append_nil]
    exact hnumber
  cases hlex with
  | @stray c hother =>
      obtain rfl := Option.some.inj hd
      have hfeed : '\n' ∉ [c] := by
        rintro hmem
        obtain rfl := List.mem_singleton.mp hmem
        exact Bool.noConfusion hother.2.1
      rw [Text.lastLine_of_not_mem hfeed] at hinfix
      exact ⟨line, hline, by simpa [Diagnostic.Anchored] using hinfix⟩
  | openString _ =>
      obtain rfl := Option.some.inj hd
      exact ⟨line, hline, hopen rfl⟩
  | openComment _ =>
      obtain rfl := Option.some.inj hd
      exact ⟨line, hline, hopen rfl⟩
  | _ => cases hd

/-- What reading blames on a token is where the token is. -/
lemma pointsInto_of_blamed {source : String} {t : Token} (ht : t ∈ (scan source).tokens)
    {d : Diagnostic} (h : t.Blamed d) : d.PointsInto source.toList := by
  obtain ⟨line, hline, hinfix⟩ := exists_line_of_mem_tokens ht
  have hnamed : (t.describe = "EOF" ∧ t.line = 1 + Text.lineFeeds source.toList) ∨
      Text.lastLine t.describe.toList <:+: line := by
    rcases mem_tokens_scan ht with rfl | ⟨located, hmem, htoken⟩
    · exact .inl ⟨rfl, rfl⟩
    · obtain ⟨_, _, _, _, hfits⟩ := exists_of_mem_locate_segments hmem
      have hend := (Located.denotes_of_token? hfits.lexeme htoken).isEnd_eq_false hfits.lexeme
      have hname : t.describe = t.lexeme := by simp [Token.describe, hend]
      exact .inr (hname ▸ hinfix)
  cases h with
  | tooDeep => exact ⟨line, hline, trivial⟩
  | expected => exact ⟨line, hline, hnamed⟩
  | unclosed => exact ⟨line, hline, hnamed⟩

/-- What evaluation blames on an operator is where the operator is. -/
lemma pointsInto_of_refuses {source : String} {t : Token} (ht : t ∈ (scan source).tokens)
    (hop : t.kind.isOperator = true) {d : Diagnostic} (h : t.Refuses d) :
    d.PointsInto source.toList := by
  obtain ⟨line, hline, hinfix⟩ := exists_line_of_isOperator ht hop
  cases h with
  | mismatch why => cases why <;> exact ⟨line, hline, hinfix⟩
  | unsupported => exact ⟨line, hline, trivial⟩

lemma pointsInto_of_run {source : String} {ds : List Diagnostic} (h : run source = .error ds) :
    ∀ d ∈ ds, d.PointsInto source.toList := by
  intro d hd
  rcases run_eq_error h with ⟨rfl, -⟩ | ⟨-, d', rfl, hstage⟩
  · exact pointsInto_of_mem_diagnostics hd
  · obtain rfl := List.mem_singleton.mp hd
    rcases hstage with hparse | ⟨e, hparse, heval⟩
    · obtain ⟨t, ht, hblamed⟩ := exists_of_parse_eq_error hparse
      exact pointsInto_of_blamed ht hblamed
    · obtain ⟨t, ht, hrefuses⟩ := Expr.exists_of_eval_eq_error heval
      obtain ⟨hmem, hop⟩ := mem_of_parse_eq_ok hparse t ht
      exact pointsInto_of_refuses hmem hop hrefuses

/-- A diagnostic whose line exists is shown with an excerpt of it. -/
lemma Diagnostic.exists_render_eq {source : String} {ds : List Diagnostic} {d : Diagnostic}
    (hd : d ∈ ds) {line : List Char} (hline : Text.line? source.toList d.line = some line) :
    ∃ before after, render source ds =
      before ++ String.join ((excerpt d.line line).map (· ++ "\n")) ++ after := by
  obtain ⟨earlier, later, rfl⟩ := List.append_of_mem hd
  have hblock : ∃ last, block (Text.lines source.toList) d =
      [d.message] ++ excerpt d.line line ++ last := by
    rw [Text.line?] at hline
    simp only [block, hline]
    exact ⟨_, rfl⟩
  obtain ⟨last, hblock⟩ := hblock
  let shown (lines : List String) := String.join (lines.map (· ++ "\n"))
  let blocks (ds : List Diagnostic) := ds.flatMap (block (Text.lines source.toList))
  refine ⟨shown (blocks earlier) ++ shown [d.message], shown last ++ shown (blocks later), ?_⟩
  simp only [render, List.flatMap_append, List.flatMap_cons, hblock, List.map_append,
    String.join_append, String.append_assoc, shown, blocks]

/-- **Every diagnostic points at a line that holds what it names.**  The line exists, so the
diagnostic is shown with an excerpt, and what is named is on the line: a character or an operator
whole, a token or the last line of it.  What was not closed, and what is missing at the end of the
input, is on the last line of the source. -/
theorem anchored_of_run_eq_error {source : String} {ds : List Diagnostic}
    (h : run source = .error ds) :
    ∀ d ∈ ds, ∃ line, Text.line? source.toList d.line = some line ∧
      d.Anchored source.toList line ∧
      ∃ before after, Diagnostic.render source ds =
        before ++ String.join ((Diagnostic.excerpt d.line line).map (· ++ "\n")) ++ after := by
  intro d hd
  obtain ⟨line, hline, hanchored⟩ := pointsInto_of_run h d hd
  exact ⟨line, hline, hanchored, Diagnostic.exists_render_eq hd hline⟩

/-- A source with a character that starts nothing, and below it a string without an end. -/
def strayAndOpen : String := "@\n\"a"

lemma run_strayAndOpen :
    run strayAndOpen = .error [⟨.unexpectedCharacter "@", 1⟩, ⟨.unterminatedString, 2⟩] := by
  have htext : strayAndOpen.toList = ['@', '\n', '"', 'a'] := rfl
  have hstray : Segment.take '@' ['\n', '"', 'a'] = (⟨.stray, ['@']⟩, ['\n', '"', 'a']) := by decide
  have hfeed : Segment.take '\n' ['"', 'a'] = (⟨.blank, ['\n']⟩, ['"', 'a']) := by decide
  have hopen : Segment.take '"' ['a'] = (⟨.openString, ['"', 'a']⟩, []) := by decide
  have hpieces : segments ['@', '\n', '"', 'a'] =
      [⟨.stray, ['@']⟩, ⟨.blank, ['\n']⟩, ⟨.openString, ['"', 'a']⟩] := by
    rw [segments_cons, hstray, segments_cons, hfeed, segments_cons, hopen, segments_nil]
  simp only [run, scan, htext, hpieces]
  rfl

/-- The character is on the first line, and the string on the second, which is the last. -/
theorem anchored_strayAndOpen :
    (∃ line, Text.line? strayAndOpen.toList 1 = some line ∧ ['@'] <:+: line) ∧
    ∃ line, Text.line? strayAndOpen.toList 2 = some line ∧
      2 = 1 + Text.lineFeeds strayAndOpen.toList := by
  obtain ⟨first, hfirst, hstray, -⟩ := anchored_of_run_eq_error run_strayAndOpen
    ⟨.unexpectedCharacter "@", 1⟩ (by simp)
  obtain ⟨second, hsecond, hopen, -⟩ := anchored_of_run_eq_error run_strayAndOpen
    ⟨.unterminatedString, 2⟩ (by simp)
  exact ⟨⟨first, hfirst, hstray⟩, second, hsecond, hopen⟩

end Reckon
