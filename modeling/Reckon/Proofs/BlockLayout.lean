import Reckon.Proofs.LineIndex
import Reckon.Proofs.Lookahead

/-!
# The layout of rendered diagnostics

Every diagnostic of a run is shown as a block of four lines, or of three if it has no tip, with its
bars and the sign before its tip in one column.  There is one exception, and it is exact.

**Lines.**  A block is laid out as it should be as far as its lines go (`Diagnostic.LaidOut`): which
they are, and in which columns their signs stand.  This needs no more than that the line of the
diagnostic exists.

**Line feeds.**  Whether the lines of a block are lines in the rendered text is another question.
The message, the gutter and the excerpt never hold a line feed, and a tip does only if what it names
does (`Fault.feed_mem_tip_iff`).

**What is named.**  Of the tokens of a source only a string can hold a line feed.  No operator is a
string, and where an operand is due a string is read, so there is one place left at which a string
is named: where a closing parenthesis should have been.
-/

namespace Reckon

/-! ## Lines without line feeds -/

namespace Text

lemma trim_subset (text : List Char) : trim text ⊆ text := by
  intro c hc
  have hstart := (List.dropWhile_suffix isBlank).subset (List.mem_reverse.mp hc)
  exact (List.dropWhile_suffix isBlank).subset (List.mem_reverse.mp hstart)

lemma not_mem_toDigits {c : Char} (hc : c.isDigit = false) (n : Nat) : c ∉ Nat.toDigits 10 n := by
  intro h
  rw [Nat.isDigit_of_mem_toDigits (by decide) (by decide) h] at hc
  cases hc

end Text

/-! ## The layout -/

lemma toString_text (text : String) : toString text = text := rfl

lemma Fault.tip?_eq_none_iff (fault : Fault) : fault.tip? = none ↔ fault = .unterminatedString := by
  cases fault <;> simp [tip?]

/-- Lines as they are shown, each ended by a line feed. -/
def shown (lines : List String) : String :=
  String.join (lines.map (· ++ "\n"))

/-- Where a sign first stands in a line, counted from zero. -/
def column (sign : Char) (line : String) : Nat :=
  line.toList.idxOf sign

lemma column_eq {sign : Char} {line : String} {before after : List Char}
    (h : line.toList = before ++ sign :: after) (hsign : sign ∉ before) :
    column sign line = before.length := by
  rw [column, h, List.idxOf_append_of_notMem hsign, List.idxOf_cons_self, Nat.add_zero]

namespace Diagnostic

/-- The column of the signs of a block, behind the line number and one blank. -/
def margin (d : Diagnostic) : Nat :=
  (Nat.toDigits 10 d.line).length + 1

/-- The lines of a block: the message, a bar, the line that the diagnostic is on with its number and
without the blanks around it, and the tip.  The bars, and the sign before the tip, are in the
margin's column. -/
structure LaidOut (source : List Char) (d : Diagnostic) (block : List String) : Prop where
  length_eq : block.length = if d.fault = .unterminatedString then 3 else 4
  message : block[0]? = some d.message
  bar : ∃ bar ∈ block[1]?, column '|' bar = d.margin ∧
    bar.toList = List.replicate d.margin ' ' ++ ['|']
  excerpt : ∃ excerpt ∈ block[2]?, column '|' excerpt = d.margin ∧
    ∃ text ∈ Text.line? source d.line, excerpt = s!"{d.line} | " ++ String.ofList (Text.trim text)
  tip : ∀ tip ∈ d.fault.tip?, ∃ last ∈ block[3]?, column '=' last = d.margin ∧
    last.toList = List.replicate d.margin ' ' ++ '=' :: ' ' :: tip.toList

lemma toList_gutter (d : Diagnostic) (sign : Char) :
    (gutter d.line sign).toList = List.replicate d.margin ' ' ++ [sign] := by
  simp [gutter, margin, List.leftpad]

lemma toList_excerpt (line : Nat) (text : List Char) :
    (s!"{line} | " ++ String.ofList text).toList =
      (Nat.toDigits 10 line ++ [' ']) ++ '|' :: ' ' :: text := by
  simp [toString_text]

/-- The lines of a block, where the source has the line of the diagnostic. -/
lemma block_eq {source : String} {d : Diagnostic} {text : List Char}
    (h : Text.line? source.toList d.line = some text) :
    block (Text.lines source.toList) d =
      d.message :: gutter d.line '|' :: (s!"{d.line} | " ++ String.ofList (Text.trim text)) ::
        (d.fault.tip?.map (gutter d.line '=' ++ " " ++ ·)).toList := by
  rw [Text.line?] at h
  simp only [block, h, excerpt]
  cases d.fault.tip? <;> rfl

/-- A block is laid out as it should be if the source has the line of the diagnostic. -/
lemma laidOut_block {source : String} {d : Diagnostic} {text : List Char}
    (h : Text.line? source.toList d.line = some text) :
    d.LaidOut source.toList (block (Text.lines source.toList) d) := by
  have hblank {sign : Char} (hsign : sign ≠ ' ') : sign ∉ List.replicate d.margin ' ' := by
    simp [hsign]
  have hlength : (List.replicate d.margin ' ').length = d.margin := List.length_replicate
  rw [block_eq h]
  refine ⟨?_, rfl, ⟨_, rfl, ?_, d.toList_gutter '|'⟩, ⟨_, rfl, ?_, text, h, rfl⟩, ?_⟩
  · cases htip : d.fault.tip? <;> simp [← Fault.tip?_eq_none_iff, htip]
  · exact (column_eq (d.toList_gutter '|') (hblank (by decide))).trans hlength
  · have hdigits : '|' ∉ Nat.toDigits 10 d.line ++ [' '] := by
      simpa using Text.not_mem_toDigits (by decide) d.line
    rw [column_eq (toList_excerpt _ _) hdigits, List.length_append, List.length_singleton, margin]
  · rintro tip htip
    have hlast : (gutter d.line '=' ++ " " ++ tip).toList =
        List.replicate d.margin ' ' ++ '=' :: ' ' :: tip.toList := by
      simp [toList_gutter]
    refine ⟨_, ?_, (column_eq hlast (hblank (by decide))).trans hlength, hlast⟩
    rw [Option.mem_def.mp htip]
    rfl

/-! ## Line feeds -/

lemma feed_not_mem_message (d : Diagnostic) : '\n' ∉ d.message.toList := by
  have hdigits := Text.not_mem_toDigits (by decide : '\n'.isDigit = false) d.line
  have hsummary : '\n' ∉ d.fault.summary.toList := by
    cases d.fault <;> simp [Fault.summary]
  simp [message, toString_text, hdigits, hsummary]

lemma feed_not_mem_gutter (d : Diagnostic) {sign : Char} (hsign : sign ≠ '\n') :
    '\n' ∉ (gutter d.line sign).toList := by
  simp [toList_gutter, Ne.symm hsign]

/-- The block of a diagnostic holds a line feed inside of its lines only if the tip holds one. -/
lemma feed_mem_block_iff {source : String} {d : Diagnostic} {text : List Char}
    (h : Text.line? source.toList d.line = some text) :
    (∀ line ∈ block (Text.lines source.toList) d, '\n' ∉ line.toList) ↔
      ∀ tip ∈ d.fault.tip?, '\n' ∉ tip.toList := by
  have hbar := d.feed_not_mem_gutter (by decide : '|' ≠ '\n')
  have hsign := d.feed_not_mem_gutter (by decide : '=' ≠ '\n')
  have hdigits := Text.not_mem_toDigits (by decide : '\n'.isDigit = false) d.line
  have htext : '\n' ∉ Text.trim text := fun hmem =>
    Text.feed_not_mem_of_line? h (Text.trim_subset text hmem)
  have hexcerpt : '\n' ∉ (s!"{d.line} | " ++ String.ofList (Text.trim text)).toList := by
    rw [toList_excerpt]
    simp [hdigits, htext]
  rw [block_eq h]
  simp only [List.forall_mem_cons, d.feed_not_mem_message, hbar, hexcerpt, not_false_eq_true,
    true_and]
  cases d.fault.tip? with
  | none => simp
  | some tip => simp [hsign]

end Diagnostic

namespace Fault

/-- The texts that a fault names. -/
def named : Fault → List String
  | .unterminatedString | .unterminatedComment | .tooDeeplyNested _ => []
  | .unexpectedCharacter text | .unterminatedGrouping text | .expectedExpression text
  | .unsupportedOperator text => [text]
  | .operandNotNumber operator received | .operandNotString operator received
  | .operandNotBool operator received => [operator, received]

lemma feed_mem_operandTip_iff {operator expected received : String}
    (h : '\n' ∉ expected.toList) :
    '\n' ∈ (operandTip operator expected received).toList ↔
      '\n' ∈ operator.toList ∨ '\n' ∈ received.toList := by
  unfold operandTip
  simp [toString_text, h]

/-- A tip holds a line feed exactly if what it names does. -/
lemma feed_mem_tip_iff {fault : Fault} {tip : String} (h : fault.tip? = some tip) :
    '\n' ∈ tip.toList ↔ ∃ text ∈ fault.named, '\n' ∈ text.toList := by
  have hdigits := Text.not_mem_toDigits (by decide : '\n'.isDigit = false)
  cases fault <;> cases h <;>
    simp [named, feed_mem_operandTip_iff, toString_text, hdigits]

end Fault

/-! ## What is named -/

/-- Of the tokens of a source only a string goes over several lines. -/
lemma feed_not_mem_describe {source : String} {t : Token} (h : t ∈ (scan source).tokens)
    (hk : t.kind ≠ .string) : '\n' ∉ t.describe.toList := by
  rcases mem_tokens_scan h with rfl | ⟨located, hmem, htoken⟩
  · simp [Token.describe, Token.endAt, Token.isEnd]
  · obtain ⟨_, _, _, _, hfits⟩ := exists_of_mem_locate_segments hmem
    have hlex := hfits.lexeme
    have hdenotes := Located.denotes_of_token? hlex htoken
    have hname : t.describe = String.ofList located.segment.text := by
      rw [Token.describe, hdenotes.isEnd_eq_false hlex, (Located.lexeme_of_token? htoken).1]
      rfl
    rw [hname, String.toList_ofList]
    generalize located.segment = piece at hlex hdenotes
    cases hdenotes with
    | string => exact absurd rfl hk
    | _ => exact hlex.feed_not_mem rfl (by simp)

/-- A diagnostic that names a string over several lines, where parentheses should have been
closed. -/
def Diagnostic.NamesBrokenString (source : String) (d : Diagnostic) : Prop :=
  ∃ t ∈ (scan source).tokens, t.kind = .string ∧ '\n' ∈ t.lexeme.toList ∧
    d.fault = .unterminatedGrouping t.lexeme

/-- What scanning names is a character that starts nothing, and a line feed is a blank. -/
lemma feed_not_mem_of_mem_diagnostics {source : String} {d : Diagnostic}
    (h : d ∈ (scan source).diagnostics) : ∀ text ∈ d.fault.named, '\n' ∉ text.toList := by
  simp only [scan, List.mem_filterMap] at h
  obtain ⟨⟨⟨form, text⟩, number⟩, hmem, hd⟩ := h
  obtain ⟨_, _, _, _, hlex, -⟩ := exists_of_mem_locate_segments hmem
  cases hlex with
  | @stray c hother =>
      obtain rfl := Option.some.inj hd
      have hc : c ≠ '\n' := by
        rintro rfl
        exact Bool.noConfusion hother.2.1
      simp [Fault.named, Ne.symm hc]
  | openString _ =>
      obtain rfl := Option.some.inj hd
      simp [Fault.named]
  | openComment _ =>
      obtain rfl := Option.some.inj hd
      simp [Fault.named]
  | _ => cases hd

/-- Reading names a string only where parentheses should have been closed. -/
lemma feed_not_mem_of_parse_eq_error {source : String} {d : Diagnostic}
    (h : parse (scan source).tokens = .error d) :
    (∀ text ∈ d.fault.named, '\n' ∉ text.toList) ∨ d.NamesBrokenString source := by
  obtain ⟨⟨d, rest, k⟩, hread, rfl⟩ := read_of_parse_eq_error h
  obtain ⟨p, m, left, place, hp, -, -, hstuck⟩ := interrupts_read .expression maxDepth hread
  have hsource {s : Stream} (hs : (Stream.ofTokens (scan source).tokens).Reaches s) :
      s.current ∈ (scan source).tokens := by
    have hmem := hs.tokens_subset s.current_mem_tokens
    rwa [scan, Stream.tokens_ofTokens] at hmem
  simp only at hstuck ⊢
  cases hstuck with
  | expected hnone =>
      have ht := hsource hp.reaches
      refine .inl (List.forall_mem_singleton.mpr (feed_not_mem_describe ht fun hk => ?_))
      -- a string of a source carries its literal, so it would have been read as the operand
      have hk' : rest.current.kind ∈ [Token.Kind.number, .string] := by simp [hk]
      obtain ⟨v, hv⟩ := Option.ne_none_iff_exists'.mp (carrying_scan source _ ht hk')
      exact hnone [] _ (.carried hk' hv)
  | bare hk hliteral => exact absurd hliteral (carrying_scan source _ (hsource hp.reaches) hk)
  | unclosed hk hspans _ =>
      have hopening := Stream.passes_advance (s := place) (by simp [Token.isEnd, hk])
      have ht := hsource ((hp.reaches.trans hopening.reaches).trans hspans.reaches)
      by_cases hfeed : '\n' ∈ rest.current.describe.toList
      · have hstring : rest.current.kind = .string :=
          not_not.mp fun hk' => feed_not_mem_describe ht hk' hfeed
        have hname : rest.current.describe = rest.current.lexeme := by
          simp [Token.describe, Token.isEnd, hstring]
        exact .inr ⟨rest.current, ht, hstring, hname ▸ hfeed, hname ▸ rfl⟩
      · exact .inl (List.forall_mem_singleton.mpr hfeed)
  | unopened _ _ => exact .inl (by simp [Token.tooDeep, Fault.named])
  | overbuilt _ _ _ _ => exact .inl (by simp [Token.tooDeep, Fault.named])

/-- Evaluation names an operator, which is no string, and a kind of value. -/
lemma feed_not_mem_of_refuses {source : String} {t : Token} (ht : t ∈ (scan source).tokens)
    (hop : t.kind.isOperator = true) {d : Diagnostic} (h : t.Refuses d) :
    ∀ text ∈ d.fault.named, '\n' ∉ text.toList := by
  have hkind : t.kind ≠ .string ∧ t.kind ≠ .endOfInput := by
    constructor <;> intro hk <;> exact absurd hop (by rw [hk]; decide)
  have hdescribe := feed_not_mem_describe ht hkind.1
  have hlexeme : '\n' ∉ t.lexeme.toList := by
    simpa [Token.describe, Token.isEnd, hkind.2] using hdescribe
  have hreceived (kind : Value.Kind) : '\n' ∉ kind.name.toList := by
    cases kind <;> decide
  cases h with
  | mismatch why => cases why <;> simp [Token.mismatch, Fault.named, hlexeme, hreceived]
  | unsupported => simpa [Token.unsupported, Fault.named] using hdescribe

lemma feed_not_mem_of_run_eq_error {source : String} {ds : List Diagnostic}
    (h : run source = .error ds) : ∀ d ∈ ds,
      (∀ text ∈ d.fault.named, '\n' ∉ text.toList) ∨ d.NamesBrokenString source := by
  intro d hd
  rcases run_eq_error h with ⟨rfl, -⟩ | ⟨-, d', rfl, hstage⟩
  · exact .inl (feed_not_mem_of_mem_diagnostics hd)
  · obtain rfl := List.mem_singleton.mp hd
    rcases hstage with hparse | ⟨e, hparse, heval⟩
    · exact feed_not_mem_of_parse_eq_error hparse
    · obtain ⟨t, ht, hrefuses⟩ := Expr.exists_of_eval_eq_error heval
      obtain ⟨hmem, hop⟩ := mem_of_parse_eq_ok hparse t ht
      exact .inl (feed_not_mem_of_refuses hmem hop hrefuses)

/-! ## Rendered diagnostics -/

namespace Diagnostic

lemma render_eq (source : String) (ds : List Diagnostic) :
    render source ds = String.join ((ds.map (block (Text.lines source.toList))).map shown) := by
  rw [render]
  induction ds with
  | nil => rfl
  | cons d ds ih =>
      rw [List.flatMap_cons, List.map_append, String.join_append, ih, List.map_cons, List.map_cons,
        String.join_cons, shown]

/-- **Diagnostics are laid out as they should be, but for strings over several lines.**  What is
rendered are blocks, one for each diagnostic and in their order.  Each has its lines as it should,
with the signs in one column, and these are lines of the rendered text as well, unless a string over
several lines is named where parentheses should have been closed. -/
theorem laidOut_of_run_eq_error {source : String} {ds : List Diagnostic}
    (h : run source = .error ds) :
    ∃ blocks, render source ds = String.join (blocks.map shown) ∧
      List.Forall₂ (fun d block => d.LaidOut source.toList block ∧
        ((∀ line ∈ block, '\n' ∉ line.toList) ↔ ¬ d.NamesBrokenString source)) ds blocks := by
  refine ⟨_, render_eq source ds, List.forall₂_map_right_iff.mpr (List.forall₂_same.mpr ?_)⟩
  intro d hd
  obtain ⟨text, hline, -⟩ := pointsInto_of_run h d hd
  refine ⟨laidOut_block hline, (feed_mem_block_iff hline).trans ⟨?_, ?_⟩⟩
  · rintro hfree ⟨t, -, -, hfeed, hfault⟩
    have htip : d.fault.tip? = some s!"Found `{t.lexeme}` where `)` was expected" := by
      rw [hfault]
      rfl
    refine hfree _ htip ((Fault.feed_mem_tip_iff htip).mpr ⟨t.lexeme, ?_, hfeed⟩)
    rw [hfault]
    exact List.mem_singleton_self _
  · intro hnot tip htip hfeed
    obtain ⟨named, hnamed, hmem⟩ := (Fault.feed_mem_tip_iff htip).mp hfeed
    rcases feed_not_mem_of_run_eq_error h d hd with hnone | hbroken
    · exact hnone named hnamed hmem
    · exact hnot hbroken

/-- A character that starts nothing is shown on four lines, and an open string on three. -/
theorem laidOut_strayAndOpen :
    ∃ first second, render strayAndOpen [⟨.unexpectedCharacter "@", 1⟩, ⟨.unterminatedString, 2⟩] =
        shown first ++ shown second ∧ first.length = 4 ∧ second.length = 3 ∧
      (∀ line ∈ first, '\n' ∉ line.toList) ∧ ∀ line ∈ second, '\n' ∉ line.toList := by
  obtain ⟨blocks, hrender, hblocks⟩ := laidOut_of_run_eq_error run_strayAndOpen
  obtain ⟨first, _, ⟨hfirst, hfree⟩, hrest, rfl⟩ := List.forall₂_cons_left_iff.mp hblocks
  obtain ⟨second, _, ⟨hsecond, hfree'⟩, hlast, rfl⟩ := List.forall₂_cons_left_iff.mp hrest
  obtain rfl := List.forall₂_nil_left_iff.mp hlast
  refine ⟨first, second, by simpa using hrender, hfirst.length_eq, hsecond.length_eq, ?_, ?_⟩
  · exact hfree.mpr (by simp [NamesBrokenString])
  · exact hfree'.mpr (by simp [NamesBrokenString])

/-- A parenthesis that is not closed before a string over two lines. -/
def openBeforeString : String := "(1 \"a\nb\""

lemma run_openBeforeString :
    run openBeforeString = .error [⟨.unterminatedGrouping "\"a\nb\"", 2⟩] := by
  decide +kernel

lemma lineFeeds_shown {lines : List String} (h : ∀ line ∈ lines, '\n' ∉ line.toList) :
    Text.lineFeeds (shown lines).toList = lines.length := by
  induction lines with
  | nil => rfl
  | cons line lines ih =>
      rw [List.forall_mem_cons] at h
      have hline : Text.lineFeeds line.toList = 0 := List.count_eq_zero.mpr h.1
      have hcons : (shown (line :: lines)).toList =
          line.toList ++ ['\n'] ++ (shown lines).toList := by
        simp [shown]
      rw [hcons, Text.lineFeeds_append, Text.lineFeeds_append, hline, ih h.2, List.length_cons]
      exact Nat.add_comm _ _

/-- The tip names the string with its line feed, so the block has five lines and not four. -/
theorem not_laidOut_openBeforeString :
    ∃ ds, run openBeforeString = .error ds ∧
      ¬ ∃ blocks, render openBeforeString ds = String.join (blocks.map shown) ∧
        List.Forall₂ (fun d block => d.LaidOut openBeforeString.toList block ∧
          ∀ line ∈ block, '\n' ∉ line.toList) ds blocks := by
  refine ⟨_, run_openBeforeString, ?_⟩
  rintro ⟨blocks, hrender, hblocks⟩
  obtain ⟨block, _, ⟨hblock, hfree⟩, hrest, rfl⟩ := List.forall₂_cons_left_iff.mp hblocks
  obtain rfl := List.forall₂_nil_left_iff.mp hrest
  have hfour : block.length = 4 := hblock.length_eq
  have hfive : Text.lineFeeds (render openBeforeString
      [⟨.unterminatedGrouping "\"a\nb\"", 2⟩]).toList = 5 := by
    decide +kernel
  have hshown : String.join ([block].map shown) = shown block := by simp
  rw [hrender, hshown, lineFeeds_shown hfree] at hfive
  omega

end Diagnostic

end Reckon
