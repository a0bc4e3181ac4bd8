import Mathlib.Logic.Relation
import Reckon.Proofs.ByteCursors
import Reckon.Proofs.Locations

/-!
# Scanning in place finds the same

The scanner with positions in bytes finds the tokens and the faults that scanning by pieces finds,
as long as its patterns find the longest matches.

**Longest matches.**  A pattern is greedy if it finds no less than any text of its form that there
is.  What it finds is then the piece that is cut off (`Pattern.Greedy.find_eq`).

**Pieces.**  `Cursor.Yields` says what comes of a scanner inside of a piece: it leaves the piece,
with the piece's token or fault added and its line feeds counted, and stands before the rest.  What
has been read of the piece is a text that grows in the statements, so each loop of the scanner is
one induction on what is ahead.

**Sources.**  One piece after the other, the scanner goes through the pieces of the source
(`Cursor.exists_leads_done`).
-/

namespace Reckon

open String (utf8Len)

/-! ## Longest matches -/

/-- A pattern that finds no less than any text of its form at the start of a text. -/
def Pattern.Greedy {form : Segment.Form} (pattern : Pattern form) : Prop :=
  ∀ {text found : List Char}, found <+: text → Segment.Lexeme form found →
    ∃ size, pattern.find text = some size ∧ utf8Len found ≤ size

/-- The patterns of a scanner both find the longest match. -/
structure Patterns.Greedy (patterns : Patterns) : Prop where
  number : patterns.number.Greedy
  word : patterns.word.Greedy

/-- What a greedy pattern finds is the piece that is cut off. -/
lemma Pattern.Greedy.find_eq {form : Segment.Form} {pattern : Pattern form} (h : pattern.Greedy)
    (hclosed : form.isOpen = false) {c : Char} {rest : List Char}
    (hform : (Segment.take c rest).1.form = form) :
    pattern.find (c :: rest) = some (utf8Len (Segment.take c rest).1.text) := by
  have hpiece : (Segment.take c rest).1.text <+: c :: rest := ⟨_, Segment.take_append c rest⟩
  have hlexeme : Segment.Lexeme form (Segment.take c rest).1.text :=
    hform ▸ (Segment.fits_take c rest).lexeme
  obtain ⟨size, hfind, hle⟩ := h hpiece hlexeme
  obtain ⟨found, ⟨rest', hrest⟩, hfound, rfl⟩ := pattern.exists_of_find hfind
  rcases (hfound.fits hclosed rest').cutsAtLeast hrest with heq | ⟨hlong, -⟩
  · rw [hfind, heq]
  · -- a match that is shorter in characters is shorter in bytes
    obtain ⟨more, hmore⟩ := List.prefix_of_prefix_length_le ⟨rest', hrest⟩ hpiece hlong.le
    have hne : utf8Len more ≠ 0 := by
      rw [Ne, String.utf8Len_eq_zero]
      rintro rfl
      rw [← hmore, List.append_nil] at hlong
      exact absurd hlong (Nat.lt_irrefl _)
    rw [← hmore, String.utf8Len_append] at hle
    omega

/-- The pattern that finds the piece that is cut off, if it has the form. -/
def Pattern.longest (form : Segment.Form) : Pattern form where
  find
    | [] => none
    | c :: rest =>
      if (Segment.take c rest).1.form = form then some (utf8Len (Segment.take c rest).1.text)
      else none
  exists_of_find := by
    intro text size h
    cases text with
    | nil => cases h
    | cons c rest =>
        simp only [Option.ite_none_right_eq_some, Option.some.injEq] at h
        obtain ⟨hform, rfl⟩ := h
        exact ⟨_, ⟨_, Segment.take_append c rest⟩, hform ▸ (Segment.fits_take c rest).lexeme, rfl⟩

/-- What has the form of a number is cut off as one, if perhaps longer. -/
lemma Segment.Lexeme.take_number {found rest tail : List Char} {c : Char} (h : Lexeme .number found)
    (hs : found ++ rest = c :: tail) : (take c tail).1.form = .number := by
  have hdigit : c.isDigit = true := by
    cases h with
    | whole hne hd => exact isDigit_head hne hd hs
    | decimal hne hd _ _ => exact isDigit_head hne hd (by rw [← hs, List.append_assoc])
  rw [take_of_isDigit hdigit]
  simp only [takeNumber]
  split <;> rfl

lemma Segment.Lexeme.take_word {found rest tail : List Char} {c : Char} (h : Lexeme .word found)
    (hs : found ++ rest = c :: tail) : (take c tail).1.form = .word := by
  cases h with
  | word hc _ =>
      obtain ⟨rfl, -⟩ := List.cons.inj hs
      rw [take_of_startsWord hc]

lemma Pattern.greedy_longest {form : Segment.Form} (hclosed : form.isOpen = false)
    (hform : ∀ {found rest tail : List Char} {c : Char}, Segment.Lexeme form found →
      found ++ rest = c :: tail → (Segment.take c tail).1.form = form) :
    (Pattern.longest form).Greedy := by
  rintro text found ⟨rest, hrest⟩ hlexeme
  obtain ⟨c, tail, rfl⟩ : ∃ c tail, text = c :: tail := by
    refine List.exists_cons_of_ne_nil ?_
    rintro rfl
    exact hlexeme.text_ne_nil (List.append_eq_nil_iff.mp hrest).1
  refine ⟨_, if_pos (hform hlexeme hrest), String.utf8Len_le_of_prefix ?_⟩
  rcases (hlexeme.fits hclosed rest).cutsAtLeast hrest with heq | ⟨hlong, -⟩
  · simp [heq]
  · exact List.prefix_of_prefix_length_le ⟨rest, hrest⟩ ⟨_, Segment.take_append c tail⟩ hlong.le

/-- The patterns that find the longest matches. -/
def Patterns.longest : Patterns :=
  ⟨.longest .number, .longest .word⟩

lemma Patterns.greedy_longest : Patterns.longest.Greedy :=
  ⟨Pattern.greedy_longest rfl Segment.Lexeme.take_number,
    Pattern.greedy_longest rfl Segment.Lexeme.take_word⟩

/-! ## What comes of a piece -/

namespace Cursor

variable {patterns : Patterns} {source : String}

/-- A scanner comes to be another by steps. -/
def Leads (patterns : Patterns) (source : String) : Cursor → Cursor → Prop :=
  Relation.ReflTransGen fun c c' => c.step patterns source = some c'

/-- A scanner leaves a piece that has started on a line, with the token or the fault of the piece,
and stands before the rest. -/
def Yields (patterns : Patterns) (source : String) (c : Cursor) (line : Nat) (piece : Segment)
    (rest : List Char) : Prop :=
  ∃ c', Leads patterns source c c' ∧ c'.phase = .between ∧
    (∃ before lexeme, Stands source c' before lexeme rest) ∧
    c'.line = line + Text.lineFeeds piece.text ∧
    c'.tokens = c.tokens ++ (Located.mk piece c'.line).token?.toList ∧
    c'.diagnostics = c.diagnostics ++ (Located.mk piece c'.line).diagnostic?.toList

namespace Yields

variable {c c' : Cursor} {line : Nat} {piece : Segment} {rest : List Char}
  {before lexeme : List Char} {form : Segment.Form}

/-- A step inside of a piece finds nothing yet. -/
lemma of_step (hstep : c.step patterns source = some c') (htokens : c'.tokens = c.tokens)
    (hdiagnostics : c'.diagnostics = c.diagnostics)
    (h : Yields patterns source c' line piece rest) :
    Yields patterns source c line piece rest := by
  obtain ⟨c'', hleads, hphase, hstands, hline, htokens', hdiagnostics'⟩ := h
  refine ⟨c'', hleads.head hstep, hphase, hstands, hline, ?_, ?_⟩
  · rw [htokens', htokens]
  · rw [hdiagnostics', hdiagnostics]

/-- A piece that means nothing is left without a trace. -/
lemma leave (hstep : c.step patterns source = some c') (h : Stands source c' before lexeme rest)
    (hphase : c'.phase = .between) (hline : c'.line = line + Text.lineFeeds lexeme)
    (htokens : c'.tokens = c.tokens) (hdiagnostics : c'.diagnostics = c.diagnostics)
    (hmeaning : (Segment.mk form lexeme).meaning? = none)
    (hfault : (Segment.mk form lexeme).fault? = none) :
    Yields patterns source c line ⟨form, lexeme⟩ rest := by
  refine ⟨c', .single hstep, hphase, ⟨before, lexeme, h⟩, hline, ?_, ?_⟩
  · simp [htokens, Located.token?, hmeaning]
  · simp [hdiagnostics, Located.diagnostic?, hfault]

lemma report {fault : Fault} (h : Stands source c before lexeme rest)
    (hstep : c.step patterns source = some (c.report fault))
    (hline : c.line = line + Text.lineFeeds lexeme)
    (hmeaning : (Segment.mk form lexeme).meaning? = none)
    (hfault : (Segment.mk form lexeme).fault? = some fault) :
    Yields patterns source c line ⟨form, lexeme⟩ rest := by
  refine ⟨c.report fault, .single hstep, rfl, ⟨before, lexeme, h.congr rfl rfl⟩, hline, ?_, ?_⟩
  · simp [Cursor.report, Located.token?, hmeaning]
  · simp [Cursor.report, Located.diagnostic?, hfault]

lemma emit {kind : Token.Kind} {literal : Option Value} (h : Stands source c before lexeme rest)
    (hp : c.phase = .emitting kind literal) (hline : c.line = line + Text.lineFeeds lexeme)
    (hmeaning : (Segment.mk form lexeme).meaning? = some (kind, literal)) :
    Yields patterns source c line ⟨form, lexeme⟩ rest := by
  have hfault := Segment.fault?_of_isToken (Segment.isToken_of_meaning? hmeaning)
  refine ⟨c.emit kind literal lexeme, .single (h.step_emitting hp), rfl,
    ⟨before, lexeme, h.congr rfl rfl⟩, hline, ?_, ?_⟩
  · simp [Cursor.emit, Located.token?, hmeaning]
  · simp [Cursor.emit, Located.diagnostic?, hfault]

/-- Only a string goes over several lines, so any other token is on the line on which it starts. -/
lemma emit_take {first : Char} {ahead : List Char} {kind : Token.Kind} {literal : Option Value}
    (htake : Segment.take first ahead = (⟨form, lexeme⟩, rest))
    (h : Stands source c before lexeme rest) (hp : c.phase = .emitting kind literal)
    (hform : form ≠ .string) (hmeaning : (Segment.mk form lexeme).meaning? = some (kind, literal)) :
    Yields patterns source c c.line (Segment.take first ahead).1 (Segment.take first ahead).2 := by
  have hlexeme : Segment.Lexeme form lexeme := by
    simpa only [htake] using (Segment.fits_take first ahead).lexeme
  have hfeeds : Text.lineFeeds lexeme = 0 :=
    List.count_eq_zero.mpr (hlexeme.feed_not_mem (Segment.isToken_of_meaning? hmeaning) hform)
  rw [htake]
  exact .emit h hp (by rw [hfeeds, Nat.add_zero]) hmeaning

end Yields

/-! ## Comments and strings -/

lemma line_passCounting (c : Cursor) (d : Char) :
    (c.passCounting d).line = c.line + Text.lineFeeds [d] := by
  by_cases hd : d = '\n' <;> simp [passCounting, Text.lineFeeds, hd]

namespace Stands

variable {c : Cursor} {line : Nat} {before lexeme ahead : List Char}

/-- A comment goes on to the next line feed, by induction on what is ahead. -/
lemma yields_lineComment (h : Stands source c before lexeme ahead) (hp : c.phase = .lineComment)
    (hline : c.line = line + Text.lineFeeds lexeme) :
    Yields patterns source c line ⟨.lineComment, lexeme ++ ahead.takeWhile (· != '\n')⟩
      (ahead.dropWhile (· != '\n')) := by
  induction ahead generalizing c lexeme with
  | nil =>
      rw [List.takeWhile_nil, List.dropWhile_nil, List.append_nil]
      exact .leave (h.step_lineComment_stop hp (by simp)) (h.congr rfl rfl) rfl hline
        rfl rfl rfl rfl
  | cons d rest ih =>
      by_cases hd : d = '\n'
      · subst hd
        rw [List.takeWhile_cons_of_neg (by simp), List.dropWhile_cons_of_neg (by simp),
          List.append_nil]
        exact .leave (h.step_lineComment_stop hp (by simp)) (h.congr rfl rfl) rfl hline
          rfl rfl rfl rfl
      · have hcount : (c.pass d).line = line + Text.lineFeeds (lexeme ++ [d]) := by
          rw [Text.lineFeeds_append, Text.lineFeeds_cons_of_ne hd]
          exact hline
        have hrest := ih (c := c.pass d) (h.pass rfl rfl) hp hcount
        rw [List.append_assoc, List.singleton_append] at hrest
        rw [List.takeWhile_cons_of_pos (by simpa using hd),
          List.dropWhile_cons_of_pos (by simpa using hd)]
        exact .of_step (h.step_lineComment_pass hp hd) rfl rfl hrest

/-- A comment goes on to the first `*/`.  The search for it has come as far as the scanner. -/
lemma yields_blockComment {body : List Char} (h : Stands source c before ('/' :: '*' :: body) ahead)
    (hp : c.phase = .blockComment) (hline : c.line = line + Text.lineFeeds ('/' :: '*' :: body))
    (hsearch : Segment.splitAtClose [] (body ++ ahead) =
      Segment.splitAtClose body.reverse ahead) :
    Yields patterns source c line (Segment.takeBlockComment (body ++ ahead)).1
      (Segment.takeBlockComment (body ++ ahead)).2 := by
  induction ahead generalizing c body with
  | nil =>
      rw [Segment.takeBlockComment, hsearch, Segment.splitAtClose, List.append_nil]
      exact .report h (h.step_blockComment_end hp) hline rfl rfl
  | cons d rest ih =>
      by_cases hclose : d = '*' ∧ rest.head? = some '/'
      · obtain ⟨rfl, hslash⟩ := hclose
        obtain ⟨rest, rfl⟩ := List.head?_eq_some_iff.mp hslash
        have htake : Segment.takeBlockComment (body ++ '*' :: '/' :: rest) =
            (⟨.blockComment, '/' :: '*' :: body ++ ['*', '/']⟩, rest) := by
          rw [Segment.takeBlockComment, hsearch, Segment.splitAtClose, if_pos ⟨rfl, rfl⟩]
          simp
        rw [htake]
        refine .leave (h.step_blockComment_close hp) (h.past ['*', '/'] rfl rfl) rfl ?_
          rfl rfl rfl rfl
        rw [Text.lineFeeds_append]
        exact hline
      · have hcount : (c.passCounting d).line =
            line + Text.lineFeeds ('/' :: '*' :: (body ++ [d])) := by
          rw [line_passCounting, hline, ← List.cons_append, ← List.cons_append,
            Text.lineFeeds_append, Nat.add_assoc]
        have hfurther : Segment.splitAtClose [] (body ++ [d] ++ rest) =
            Segment.splitAtClose (body ++ [d]).reverse rest := by
          rw [List.append_assoc, List.singleton_append, hsearch, Segment.splitAtClose,
            if_neg hclose, List.reverse_append]
          rfl
        have hnext : Stands source (c.passCounting d) before ('/' :: '*' :: (body ++ [d])) rest :=
          h.pass rfl rfl
        have hrest := ih hnext hp hcount hfurther
        rw [List.append_assoc, List.singleton_append] at hrest
        exact .of_step (h.step_blockComment_pass hp hclose) rfl rfl hrest

/-- Behind the inside of a string stands a quote, and the string is closed, or nothing. -/
lemma yields_closing {body : List Char} (h : Stands source c before ('"' :: body) ahead)
    (hp : c.phase = .closing) (hline : c.line = line + Text.lineFeeds ('"' :: body))
    (hbody : '"' ∉ body) (hstop : ∀ d ∈ ahead.head?, d = '"') :
    Yields patterns source c line (Segment.take '"' (body ++ ahead)).1
      (Segment.take '"' (body ++ ahead)).2 := by
  cases ahead with
  | nil =>
      have htake : Segment.take '"' (body ++ []) = (⟨.openString, '"' :: body⟩, []) :=
        Segment.Fits.take_eq ⟨.openString hbody, fun _ => rfl⟩ (by simp) rfl
      rw [htake]
      exact .report h (h.step_closing_end hp) hline rfl rfl
  | cons d rest =>
      obtain rfl := hstop d rfl
      have htake : Segment.take '"' (body ++ '"' :: rest) =
          (⟨.string, '"' :: (body ++ ['"'])⟩, rest) :=
        (Segment.Lexeme.fits (.string hbody) rfl rest).take_eq (fun _ _ => rfl) (by simp)
      rw [htake]
      have hclosed : Stands source ((c.pass '"').turn .closed) before
          ('"' :: (body ++ ['"'])) rest := h.pass rfl rfl
      refine .of_step (h.step_closing_pass hp) rfl rfl ?_
      refine .of_step (hclosed.step_closed rfl) rfl rfl ?_
      refine .emit (hclosed.congr rfl rfl) rfl ?_ ?_
      · rw [← List.cons_append, Text.lineFeeds_append]
        exact hline
      · simp [Segment.meaning?, Segment.unquoted]

/-- A string goes on to the next quote. -/
lemma yields_string {body : List Char} (h : Stands source c before ('"' :: body) ahead)
    (hp : c.phase = .string) (hline : c.line = line + Text.lineFeeds ('"' :: body))
    (hbody : '"' ∉ body) :
    Yields patterns source c line (Segment.take '"' (body ++ ahead)).1
      (Segment.take '"' (body ++ ahead)).2 := by
  induction ahead generalizing c body with
  | nil =>
      refine .of_step (h.step_string_stop hp (by simp)) rfl rfl ?_
      exact yields_closing (h.congr rfl rfl) rfl hline hbody (by simp)
  | cons d rest ih =>
      by_cases hd : d = '"'
      · have hstop : ∀ e ∈ (d :: rest).head?, e = '"' := by simpa using hd
        refine .of_step (h.step_string_stop hp hstop) rfl rfl ?_
        exact yields_closing (h.congr rfl rfl) rfl hline hbody hstop
      · have hcount : (c.passCounting d).line = line + Text.lineFeeds ('"' :: (body ++ [d])) := by
          rw [line_passCounting, hline, ← List.cons_append, Text.lineFeeds_append, Nat.add_assoc]
        have hnext : Stands source (c.passCounting d) before ('"' :: (body ++ [d])) rest :=
          h.pass rfl rfl
        have hrest := ih hnext hp hcount (by simp [hbody, Ne.symm hd])
        rw [List.append_assoc, List.singleton_append] at hrest
        exact .of_step (h.step_string_pass hp hd) rfl rfl hrest

end Stands

/-! ## Every piece -/

lemma take_of_single? {first : Char} {kind : Token.Kind} (h : single? first = some kind)
    (ahead : List Char) : Segment.take first ahead = (⟨.symbol kind, [first]⟩, ahead) := by
  unfold single? at h
  split at h <;> cases h <;> rfl

lemma take_of_extensible? {first : Char} {long short : Token.Kind}
    (h : extensible? first = some (long, short)) (rest : List Char) :
    Segment.take first ('=' :: rest) = (⟨.symbol long, [first, '=']⟩, rest) := by
  unfold extensible? at h
  split at h <;> cases h <;> rfl

lemma take_of_unextended {first : Char} {long short : Token.Kind} {ahead : List Char}
    (h : extensible? first = some (long, short)) (hahead : ahead.head? ≠ some '=') :
    Segment.take first ahead = (⟨.symbol short, [first]⟩, ahead) := by
  have hequals : ['='].isPrefixOf ahead = false := by
    cases ahead with
    | nil => rfl
    | cons d rest =>
        have hd : '=' ≠ d := by
          rintro rfl
          exact hahead rfl
        simp [List.isPrefixOf, hd]
  unfold extensible? at h
  split at h <;> cases h <;>
    rw [Segment.take_of_other (by decide) (by simp) (by simp) rfl rfl rfl] <;>
    simp [Segment.symbol?, Token.Kind.symbols, List.find?, List.isPrefixOf, hequals]

lemma take_slash {ahead : List Char} (hline : ahead.head? ≠ some '/')
    (hblock : ahead.head? ≠ some '*') :
    Segment.take '/' ahead = (⟨.symbol .slash, ['/']⟩, ahead) := by
  rw [Segment.take_of_other (by decide) (by simpa using hline) (by simpa using hblock) rfl rfl rfl]
  rfl

lemma take_stray {first : Char} (hsingle : single? first = none)
    (hextensible : extensible? first = none) (hslash : first ≠ '/')
    (hblank : Segment.isSeparator first = false) (hquote : first ≠ '"')
    (hdigit : first.isDigit = false) (hword : Segment.startsWord first = false)
    (ahead : List Char) : Segment.take first ahead = (⟨.stray, [first]⟩, ahead) := by
  have hall : ∀ symbol ∈ Token.Kind.symbols, symbol.1.head?.all fun c =>
      c == '/' || (single? c).isSome || (extensible? c).isSome := by decide
  have hother : Segment.IsOther first := by
    refine ⟨hquote, hblank, hdigit, hword, fun symbol hmem hhead => ?_⟩
    have hstarts := hall symbol hmem
    simp [hhead, hslash, hsingle, hextensible] at hstarts
  exact (Segment.Lexeme.fits (.stray hother) rfl ahead).take_eq (fun _ _ => rfl) rfl

namespace Stands

variable {c : Cursor} {before ahead : List Char} {first : Char}

/-- At the end of the longest match the piece is complete.  A phase that reads the match makes the
token of it. -/
lemma yields_match {form : Segment.Form} {pattern : Pattern form} {phase : Phase}
    {meaning : List Char → Token.Kind × Option Value} (hgreedy : pattern.Greedy)
    (hclosed : form.isOpen = false) (hstring : form ≠ .string)
    (hmeaning : ∀ text, (Segment.mk form text).meaning? = some (meaning text))
    (hread : ∀ {c : Cursor} {before lexeme ahead : List Char}, Stands source c before lexeme ahead →
      c.phase = phase → c.step patterns source =
        some (c.turn (.emitting (meaning lexeme).1 (meaning lexeme).2)))
    (h : Stands source c before [first] ahead) (hform : (Segment.take first ahead).1.form = form)
    (hstep : c.step patterns source =
      some ((c.jump (pattern.find (first :: ahead))).turn phase)) :
    Yields patterns source c c.line (Segment.take first ahead).1 (Segment.take first ahead).2 := by
  rw [hgreedy.find_eq hclosed hform] at hstep
  rcases htake : Segment.take first ahead with ⟨⟨_, text⟩, rest⟩
  rw [htake] at hform hstep
  obtain rfl : _ = form := hform
  have hjump : Stands source ((c.jump (some (utf8Len text))).turn phase) before text rest := by
    refine ⟨?_, h.start_eq, congrArg (· + utf8Len text) h.start_eq⟩
    have hpiece := Segment.take_append first ahead
    rw [htake] at hpiece
    rw [List.append_assoc, hpiece, h.text, List.append_assoc, List.singleton_append]
  rw [← htake]
  refine .of_step hstep rfl rfl (.of_step (hread hjump rfl) rfl rfl ?_)
  exact .emit_take htake (hjump.congr rfl rfl) rfl hstring (hmeaning text)

/-- **What comes of a piece is the piece that is cut off**, whatever character it starts with. -/
lemma yields_opened (hgreedy : patterns.Greedy) (h : Stands source c before [first] ahead)
    (hp : c.phase = .opened first) :
    Yields patterns source c c.line (Segment.take first ahead).1 (Segment.take first ahead).2 := by
  obtain ⟨c', hstep, hbegins⟩ := h.exists_begins patterns hp
  cases hbegins with
  | single hsingle =>
      refine .of_step hstep rfl rfl ?_
      exact .emit_take (take_of_single? hsingle ahead) (h.congr rfl rfl) rfl (by simp) rfl
  | extended hextensible =>
      refine .of_step hstep rfl rfl ?_
      exact .emit_take (take_of_extensible? hextensible _) (h.pass rfl rfl) rfl (by simp) rfl
  | unextended hextensible hahead =>
      refine .of_step hstep rfl rfl ?_
      exact .emit_take (take_of_unextended hextensible hahead) (h.congr rfl rfl) rfl (by simp) rfl
  | @lineComment rest =>
      rw [Segment.take_slash_slash, Segment.takeLineComment]
      have hnext : Stands source ((c.pass '/').turn .lineComment) before ['/', '/'] rest :=
        h.pass rfl rfl
      exact .of_step hstep rfl rfl (hnext.yields_lineComment rfl rfl)
  | @blockComment rest =>
      rw [Segment.take_slash_star]
      have hnext : Stands source ((c.pass '*').turn .blockComment) before ['/', '*'] rest :=
        h.pass rfl rfl
      exact .of_step hstep rfl rfl (hnext.yields_blockComment rfl rfl rfl)
  | slash hline hblock =>
      refine .of_step hstep rfl rfl ?_
      exact .emit_take (take_slash hline hblock) (h.congr rfl rfl) rfl (by simp) rfl
  | feed =>
      rw [Segment.take_of_isSeparator rfl]
      exact .leave hstep (h.congr rfl rfl) rfl rfl rfl rfl rfl rfl
  | blank hblank hfeed =>
      rw [Segment.take_of_isSeparator hblank]
      refine .leave hstep (h.congr rfl rfl) rfl ?_ rfl rfl rfl rfl
      rw [Text.lineFeeds_cons_of_ne hfeed]
      rfl
  | quote =>
      have hnext : Stands source (c.turn .string) before ['"'] ahead := h.congr rfl rfl
      exact .of_step hstep rfl rfl (hnext.yields_string rfl rfl List.not_mem_nil)
  | digit hdigit =>
      have hlexeme : Segment.Lexeme .number [first] := .whole (by simp) (by simpa using hdigit)
      have hform := hlexeme.take_number (rfl : [first] ++ ahead = first :: ahead)
      exact h.yields_match hgreedy.number rfl (by simp) (fun _ => rfl) step_number hform hstep
  | word hword =>
      have hlexeme : Segment.Lexeme .word [first] := .word hword (by simp)
      have hform := hlexeme.take_word (rfl : [first] ++ ahead = first :: ahead)
      exact h.yields_match hgreedy.word rfl (by simp) (fun _ => rfl) step_word hform hstep
  | stray hsingle hextensible hslash hblank hquote hdigit hword =>
      rw [take_stray hsingle hextensible hslash hblank hquote hdigit hword]
      refine .report h hstep ?_ rfl rfl
      have hfeed : first ≠ '\n' := by
        rintro rfl
        cases hblank
      rw [Text.lineFeeds_cons_of_ne hfeed]
      rfl

/-- From between two pieces, the next piece. -/
lemma yields_between {lexeme : List Char} (hgreedy : patterns.Greedy)
    (h : Stands source c before lexeme (first :: ahead)) (hp : c.phase = .between) :
    Yields patterns source c c.line (Segment.take first ahead).1 (Segment.take first ahead).2 := by
  have hopening : Stands source c.restart (before ++ lexeme) [] (first :: ahead) := h.next rfl rfl
  have hopened : Stands source ((c.restart.pass first).turn (.opened first)) (before ++ lexeme)
      [first] ahead := hopening.pass rfl rfl
  refine .of_step (h.step_between hp) rfl rfl (.of_step (hopening.step_opening rfl) rfl rfl ?_)
  exact hopened.yields_opened hgreedy rfl

end Stands

/-! ## Whole sources -/

/-- **Scanning in place goes through the pieces of what is ahead**, by induction on how much that
is. -/
theorem Stands.exists_leads_done (hgreedy : patterns.Greedy) {c : Cursor}
    {before lexeme ahead : List Char} (h : Stands source c before lexeme ahead)
    (hp : c.phase = .between) :
    ∃ c', Leads patterns source c c' ∧ c'.phase = .done ∧
      c'.tokens = c.tokens ++ ((locate c.line (segments ahead)).filterMap Located.token? ++
        [Token.endAt (c.line + Text.lineFeeds ahead)]) ∧
      c'.diagnostics =
        c.diagnostics ++ (locate c.line (segments ahead)).filterMap Located.diagnostic? := by
  induction hsize : ahead.length using Nat.strong_induction_on
    generalizing c before lexeme ahead with
  | _ size ih =>
      cases ahead with
      | nil => exact ⟨c.finish, .single (h.step_between_end hp), rfl, by simp [finish]⟩
      | cons first ahead =>
          obtain ⟨c', hleads, hp', ⟨before', lexeme', h'⟩, hline, htokens, hdiagnostics⟩ :=
            h.yields_between hgreedy hp
          have hshorter := Segment.length_take_lt first ahead
          obtain ⟨c'', hleads', hdone, htokens', hdiagnostics'⟩ :=
            ih _ (hsize ▸ hshorter) h' hp' rfl
          have hfeeds : Text.lineFeeds (first :: ahead) =
              Text.lineFeeds (Segment.take first ahead).1.text +
                Text.lineFeeds (Segment.take first ahead).2 := by
            rw [← Text.lineFeeds_append, Segment.take_append]
          refine ⟨c'', hleads.trans hleads', hdone, ?_, ?_⟩
          · rw [htokens', htokens, segments_cons, locate_cons, hfeeds, ← Nat.add_assoc, ← hline]
            simp only [List.filterMap_eq_flatMap_toList, List.flatMap_cons, List.append_assoc]
          · rw [hdiagnostics', hdiagnostics, segments_cons, locate_cons, ← hline]
            simp only [List.filterMap_eq_flatMap_toList, List.flatMap_cons, List.append_assoc]

lemma exists_after_of_leads {c c' : Cursor} (h : Leads patterns source c c') {n : Nat}
    (hc : after patterns source n = some c) : ∃ m, after patterns source m = some c' := by
  induction h with
  | refl => exact ⟨n, hc⟩
  | tail _ hstep ih =>
      obtain ⟨m, hm⟩ := ih
      exact ⟨m + 1, (after_succ hm).trans hstep⟩

/-- With patterns that find the longest matches, scanning in place ends with what scanning finds. -/
lemma scan_eq_of_done (hgreedy : patterns.Greedy) {n : Nat} {c : Cursor}
    (hc : after patterns source n = some c) (hp : c.phase = .done) :
    Scan.mk c.tokens c.diagnostics = scan source := by
  have hinitial : Stands source initial [] [] source.toList := ⟨rfl, rfl, rfl⟩
  obtain ⟨c', hleads, hp', htokens, hdiagnostics⟩ := hinitial.exists_leads_done hgreedy rfl
  obtain ⟨m, hc'⟩ := exists_after_of_leads hleads (n := 0) rfl
  obtain rfl : c = c' := eq_of_done hc hc' hp hp'
  rw [htokens, hdiagnostics]
  rfl

/-- **Scanning in place never leaves the source, and comes to its end.**  Whatever the patterns
find, after any number of steps both positions are in order, in the source and on boundaries, and no
slice is ever out of reach, for otherwise there would be no next state.  The scanner has moved from
one piece to the next, and at some time it is done.  If the patterns find the longest matches, it
has then found what scanning finds. -/
theorem after_inside_source (patterns : Patterns) (source : String) :
    (∀ n, ∃ c, after patterns source n = some c ∧ c.Inside source) ∧
      (∀ i j, i < j → ∀ c ∈ after patterns source i, ∀ c' ∈ after patterns source j,
        c.phase = .between → c'.phase = .between → c.current < c'.current) ∧
      (∃ n, ∃ c ∈ after patterns source n, c.phase = .done) ∧
      (patterns.Greedy → ∀ n, ∀ c ∈ after patterns source n, c.phase = .done →
        Scan.mk c.tokens c.diagnostics = scan source) := by
  refine ⟨fun n => ?_, fun i j hij c hc c' hc' => current_lt_of_between hij hc hc',
    exists_done (n := 0) rfl, fun hgreedy n c hc => scan_eq_of_done hgreedy hc⟩
  obtain ⟨c, hc, _, _, _, hstands, -⟩ := exists_after patterns source n
  exact ⟨c, hc, hstands.inside⟩

/-- A string of two quotes and a letter of two bytes, and then a word of one such letter. -/
theorem after_inside_accented :
    (∃ c ∈ after .longest "\"é\"é" 0, ∃ c' ∈ after .longest "\"é\"é" 8, c.current < c'.current) ∧
      ∃ n, ∃ c ∈ after .longest "\"é\"é" n, Scan.mk c.tokens c.diagnostics = scan "\"é\"é" := by
  obtain ⟨hinside, hlt, ⟨n, c, hc, hdone⟩, hscan⟩ := after_inside_source .longest "\"é\"é"
  obtain ⟨c', hc', -⟩ := hinside 8
  have hp : (after .longest "\"é\"é" 8).map phase = some .between := by decide +kernel
  rw [hc', Option.map_some, Option.some.injEq] at hp
  refine ⟨⟨initial, rfl, c', hc', hlt 0 8 (by decide) initial rfl c' hc' rfl hp⟩, n, c, hc, ?_⟩
  exact hscan Patterns.greedy_longest n c hc hdone

end Cursor

end Reckon
