import Mathlib.Data.String.Basic
import Reckon.Proofs.Lexemes

/-!
# Scanning by byte positions

A source can be scanned in place, with two positions in its bytes: where the piece at hand starts,
and how far it has been read.  `Cursor` is such a scanner, one small step at a time.  Its positions
are numbers that are moved by the sizes of characters, by a fixed two, and by the lengths of
matches, and nothing in the scanner itself keeps them in the text or on the boundaries of
characters.

**Slices.**  What the scanner knows of the source it knows from slices.  A slice between positions
that are out of order, outside of the text or inside of a character cannot be taken (`Text.slice?`),
and a step that would have to take it does not exist.  Numbers and words are measured by patterns of
which nothing is assumed but that a match is one (`Pattern`).

**Steps.**  A scanner is sound if its positions cut the source into what is before the piece, what
has been read of it, and what is ahead (`Cursor.Stands`), and if what has been read is what the
scanner takes it for (`Cursor.Shape`).  A sound scanner has a step, to a sound scanner again, and
the step moves on: it passes a character, or gets closer to the next one (`Cursor.advances`).

**Runs.**  So all states of a run are sound (`Cursor.exists_after`), a run comes to its end
(`Cursor.exists_done`), and from one piece to the next the scanner has moved
(`Cursor.current_lt_of_between`).
-/

namespace Reckon

open String (utf8Len)

/-! ## Slices -/

namespace Text

/-- The characters between two positions in the bytes of a source.  There are none to be had if the
positions are not in order, or if one of them is outside of the source or inside of a character. -/
def slice? (source : String) (first last : Nat) : Option (List Char) :=
  if first ≤ last ∧ String.Pos.Raw.IsValid source ⟨first⟩ ∧
      String.Pos.Raw.IsValid source ⟨last⟩ then
    some (String.Pos.Raw.extract source ⟨first⟩ ⟨last⟩).toList
  else none

/-- A position is on a boundary if it has the size of what stands before it. -/
lemma isValid_utf8Len {source : String} {a b : List Char} (h : source.toList = a ++ b) :
    String.Pos.Raw.IsValid source ⟨utf8Len a⟩ := by
  rw [String.Pos.Raw.isValid_iff_exists_append]
  refine ⟨String.ofList a, String.ofList b, ?_, (String.rawEndPos_ofList a).symm⟩
  rw [← String.ofList_append, ← h, String.ofList_toList]

/-- The part of a source between two others is a slice of it. -/
lemma slice?_eq_some {source : String} {a b c : List Char} (h : source.toList = a ++ b ++ c)
    {first last : Nat} (hfirst : first = utf8Len a) (hlast : last = utf8Len a + utf8Len b) :
    slice? source first last = some b := by
  have hvalid : String.Pos.Raw.IsValid source ⟨first⟩ := by
    rw [hfirst]
    exact isValid_utf8Len (b := b ++ c) (by rw [h, List.append_assoc])
  have hvalid' : String.Pos.Raw.IsValid source ⟨last⟩ := by
    rw [hlast, ← String.utf8Len_append]
    exact isValid_utf8Len h
  have hextract := String.extract_of_valid a b c
  rw [← h, String.ofList_toList] at hextract
  rw [slice?, if_pos ⟨by omega, hvalid, hvalid'⟩, hfirst, hlast, hextract, String.toList_ofList]

-- a position inside of a character of two bytes
example : slice? "é" 1 2 = none := by decide

end Text

/-! ## Patterns -/

/-- A search for a form at the start of a text.  It gives the size in bytes of a text of the form,
which need not be the longest, or it finds nothing. -/
structure Pattern (form : Segment.Form) where
  find : List Char → Option Nat
  exists_of_find : ∀ {text : List Char} {size : Nat}, find text = some size →
    ∃ found, found <+: text ∧ Segment.Lexeme form found ∧ size = utf8Len found

/-- The two forms that are searched for and not read character by character. -/
structure Patterns where
  number : Pattern .number
  word : Pattern .word

/-! ## The scanner -/

/-- What a scanner is about to do. -/
inductive Cursor.Phase where
  | between
  | opening
  | opened (first : Char)
  | lineComment
  | blockComment
  | string
  | closing
  | closed
  | number
  | word
  | emitting (kind : Token.Kind) (literal : Option Value)
  | done
  deriving DecidableEq, Repr

/-- A scanner at work: where the piece at hand starts and how far it has been read, both in bytes,
the line, and what has been found. -/
structure Cursor where
  start : Nat
  current : Nat
  line : Nat
  phase : Cursor.Phase
  tokens : List Token
  diagnostics : List Diagnostic
  deriving DecidableEq, Repr

namespace Cursor

def initial : Cursor :=
  ⟨0, 0, 1, .between, [], []⟩

/-- The same scanner in another phase. -/
def turn (c : Cursor) (phase : Phase) : Cursor :=
  { c with phase }

/-- Goes past a character. -/
def pass (c : Cursor) (d : Char) : Cursor :=
  { c with current := c.current + d.utf8Size }

/-- Goes past a character, which may be a line feed. -/
def passCounting (c : Cursor) (d : Char) : Cursor :=
  { c with current := c.current + d.utf8Size, line := if d = '\n' then c.line + 1 else c.line }

/-- Goes to the end of a match, which is counted from the start of the piece. -/
def jump (c : Cursor) : Option Nat → Cursor
  | some size => { c with current := c.start + size }
  | none => c

/-- Starts the next piece where the last one has ended. -/
def restart (c : Cursor) : Cursor :=
  { c with start := c.current, phase := .opening }

/-- Adds the end of the input. -/
def finish (c : Cursor) : Cursor :=
  { c with phase := .done, tokens := c.tokens ++ [Token.endAt c.line] }

/-- Reports a fault, and leaves the piece. -/
def report (c : Cursor) (fault : Fault) : Cursor :=
  { c with phase := .between, diagnostics := c.diagnostics ++ [⟨fault, c.line⟩] }

/-- Adds a token with a text, and leaves the piece. -/
def emit (c : Cursor) (kind : Token.Kind) (literal : Option Value) (lexeme : List Char) : Cursor :=
  { c with
    phase := .between
    tokens := c.tokens ++ [⟨kind, String.ofList lexeme, literal, c.line⟩] }

/-- The symbols that no other character can extend. -/
def single? : Char → Option Token.Kind
  | '(' => some .leftParen
  | ')' => some .rightParen
  | '\x7b' => some .leftBrace
  | '\x7d' => some .rightBrace
  | ',' => some .comma
  | '.' => some .dot
  | '-' => some .minus
  | '+' => some .plus
  | ';' => some .semicolon
  | '*' => some .star
  | _ => none

/-- The symbols that an equals sign extends, with it and without. -/
def extensible? : Char → Option (Token.Kind × Token.Kind)
  | '!' => some (.bangEqual, .bang)
  | '=' => some (.equalEqual, .equal)
  | '<' => some (.lessEqual, .less)
  | '>' => some (.greaterEqual, .greater)
  | _ => none

variable (patterns : Patterns) (source : String)

/-- All that has not been read. -/
def ahead? (c : Cursor) : Option (List Char) :=
  Text.slice? source c.current source.utf8ByteSize

/-- What has been read of the piece at hand. -/
def lexeme? (c : Cursor) : Option (List Char) :=
  Text.slice? source c.start c.current

/-- Behind the first character of a piece, which decides what the piece is. -/
def begin? (c : Cursor) (first : Char) : Option Cursor :=
  match single? first, extensible? first with
  | some kind, _ => some (c.turn (.emitting kind none))
  | none, some (long, short) => do
    let ahead ← c.ahead? source
    if ahead.head? = some '=' then some ((c.pass '=').turn (.emitting long none))
    else some (c.turn (.emitting short none))
  | none, none =>
    if first = '/' then do
      let ahead ← c.ahead? source
      if ahead.head? = some '/' then some ((c.pass '/').turn .lineComment)
      else if ahead.head? = some '*' then some ((c.pass '*').turn .blockComment)
      else some (c.turn (.emitting .slash none))
    else if first = '\n' then some { c with line := c.line + 1, phase := .between }
    else if Segment.isSeparator first then some (c.turn .between)
    else if first = '"' then some (c.turn .string)
    else if first.isDigit then do
      let text ← Text.slice? source c.start source.utf8ByteSize
      some ((c.jump (patterns.number.find text)).turn .number)
    else if Segment.startsWord first then do
      let text ← Text.slice? source c.start source.utf8ByteSize
      some ((c.jump (patterns.word.find text)).turn .word)
    else some (c.report (.unexpectedCharacter (String.ofList [first])))

/-- One step.  There is none where a slice cannot be taken. -/
def step (c : Cursor) : Option Cursor :=
  match c.phase with
  | .between =>
    if source.utf8ByteSize ≤ c.current then some c.finish
    else some c.restart
  | .opening => do
    match ← c.ahead? source with
    | [] => some (c.turn .between)
    | first :: _ => some ((c.pass first).turn (.opened first))
  | .opened first => c.begin? patterns source first
  | .lineComment => do
    match ← c.ahead? source with
    | [] => some (c.turn .between)
    | d :: _ => some (if d = '\n' then c.turn .between else c.pass d)
  | .blockComment => do
    match ← c.ahead? source with
    | [] => some (c.report .unterminatedComment)
    | d :: rest =>
      -- the end of a comment is two characters of one byte
      if d = '*' ∧ rest.head? = some '/' then
        some { c with current := c.current + 2, phase := .between }
      else some (c.passCounting d)
  | .string => do
    match ← c.ahead? source with
    | [] => some (c.turn .closing)
    | d :: _ => some (if d = '"' then c.turn .closing else c.passCounting d)
  | .closing =>
    if source.utf8ByteSize ≤ c.current then some (c.report .unterminatedString)
    else do
      match ← c.ahead? source with
      | [] => some (c.turn .closed)
      | d :: _ => some ((c.pass d).turn .closed)
  | .closed => do
    -- without the two quotes
    let body ← Text.slice? source (c.start + 1) (c.current - 1)
    some (c.turn (.emitting .string (some (.string (String.ofList body)))))
  | .number => do
    let lexeme ← c.lexeme? source
    some (c.turn (.emitting .number (some (.number (Segment.decimal lexeme).toFloat))))
  | .word => do
    let lexeme ← c.lexeme? source
    some (c.turn (.emitting (Segment.wordKind lexeme) none))
  | .emitting kind literal => do
    let lexeme ← c.lexeme? source
    some (c.emit kind literal lexeme)
  | .done => some c

/-- The scanner after a number of steps, if all of them exist. -/
def after : Nat → Option Cursor
  | 0 => some initial
  | n + 1 => (after n).bind (step patterns source)

/-! ## Where a scanner stands -/

variable {patterns source}

/-- The positions of a scanner cut the source in three: what is before the piece at hand, what has
been read of the piece, and what is ahead. -/
structure Stands (source : String) (c : Cursor) (before lexeme ahead : List Char) : Prop where
  text : source.toList = before ++ lexeme ++ ahead
  start_eq : c.start = utf8Len before
  current_eq : c.current = utf8Len before + utf8Len lexeme

/-- What has been read of a piece, and what is ahead, in a phase that relies on it. -/
def Shape : Phase → List Char → List Char → Prop
  | .opening, lexeme, ahead => lexeme = [] ∧ ahead ≠ []
  | .opened first, lexeme, _ => lexeme = [first]
  | .string, lexeme, _ => ∃ body, lexeme = '"' :: body
  | .closing, lexeme, ahead => (∃ body, lexeme = '"' :: body) ∧ ∀ d ∈ ahead.head?, d = '"'
  | .closed, lexeme, _ => ∃ body, lexeme = '"' :: (body ++ ['"'])
  | _, _, _ => True

/-- A scanner whose positions are in the source, and that is right about what it has read. -/
def Sound (source : String) (c : Cursor) : Prop :=
  ∃ before lexeme ahead, Stands source c before lexeme ahead ∧ Shape c.phase lexeme ahead

/-- The positions of a scanner are in order and in the source, and on boundaries of characters. -/
structure Inside (source : String) (c : Cursor) : Prop where
  start_le : c.start ≤ c.current
  current_le : c.current ≤ source.utf8ByteSize
  start_valid : String.Pos.Raw.IsValid source ⟨c.start⟩
  current_valid : String.Pos.Raw.IsValid source ⟨c.current⟩

namespace Stands

variable {c : Cursor} {before lexeme ahead : List Char}

lemma size_eq (h : Stands source c before lexeme ahead) :
    source.utf8ByteSize = c.current + utf8Len ahead := by
  rw [← String.utf8Len_toList, h.text, String.utf8Len_append, String.utf8Len_append, h.current_eq]

lemma inside (h : Stands source c before lexeme ahead) : c.Inside source where
  start_le := by rw [h.start_eq, h.current_eq]; omega
  current_le := by rw [h.size_eq]; omega
  start_valid := by
    rw [h.start_eq]
    exact Text.isValid_utf8Len (b := lexeme ++ ahead) (by rw [h.text, List.append_assoc])
  current_valid := by
    rw [h.current_eq, ← String.utf8Len_append]
    exact Text.isValid_utf8Len h.text

lemma ahead?_eq (h : Stands source c before lexeme ahead) : c.ahead? source = some ahead := by
  have htext : source.toList = before ++ lexeme ++ ahead ++ [] := by rw [h.text, List.append_nil]
  refine Text.slice?_eq_some htext ?_ ?_
  · rw [h.current_eq, String.utf8Len_append]
  · rw [h.size_eq, h.current_eq, String.utf8Len_append]

lemma lexeme?_eq (h : Stands source c before lexeme ahead) : c.lexeme? source = some lexeme :=
  Text.slice?_eq_some h.text h.start_eq h.current_eq

lemma slice?_start (h : Stands source c before lexeme ahead) :
    Text.slice? source c.start source.utf8ByteSize = some (lexeme ++ ahead) := by
  have htext : source.toList = before ++ (lexeme ++ ahead) ++ [] := by simp [h.text]
  refine Text.slice?_eq_some htext h.start_eq ?_
  rw [h.size_eq, h.current_eq, String.utf8Len_append, Nat.add_assoc]

/-- Between its quotes, which are one byte each, a string is a slice too. -/
lemma slice?_body {body : List Char} (h : Stands source c before ('"' :: (body ++ ['"'])) ahead) :
    Text.slice? source (c.start + 1) (c.current - 1) = some body := by
  have hquote : '"'.utf8Size = 1 := by decide
  have hcurrent := h.current_eq
  simp only [String.utf8Len_cons, String.utf8Len_append, String.utf8Len_nil, hquote] at hcurrent
  refine Text.slice?_eq_some (a := before ++ ['"']) (c := '"' :: ahead) (by simp [h.text]) ?_ ?_
  · simp [h.start_eq, hquote]
  · simp only [String.utf8Len_append, String.utf8Len_cons, String.utf8Len_nil, hquote]
    omega

/-- The phase, the line and what has been found have nothing to do with where a scanner stands. -/
lemma congr (h : Stands source c before lexeme ahead) {c' : Cursor} (hstart : c'.start = c.start)
    (hcurrent : c'.current = c.current) : Stands source c' before lexeme ahead :=
  ⟨h.text, hstart.trans h.start_eq, hcurrent.trans h.current_eq⟩

/-- Past the next characters, which then belong to the piece. -/
lemma past (taken : List Char) {rest : List Char}
    (h : Stands source c before lexeme (taken ++ rest)) {c' : Cursor} (hstart : c'.start = c.start)
    (hcurrent : c'.current = c.current + utf8Len taken) :
    Stands source c' before (lexeme ++ taken) rest where
  text := by simp [h.text]
  start_eq := hstart.trans h.start_eq
  current_eq := by rw [hcurrent, h.current_eq, String.utf8Len_append, Nat.add_assoc]

lemma pass {d : Char} {rest : List Char} (h : Stands source c before lexeme (d :: rest))
    {c' : Cursor} (hstart : c'.start = c.start) (hcurrent : c'.current = c.current + d.utf8Size) :
    Stands source c' before (lexeme ++ [d]) rest :=
  h.past [d] hstart (by simpa using hcurrent)

/-- At the start of the next piece. -/
lemma next (h : Stands source c before lexeme ahead) {c' : Cursor} (hstart : c'.start = c.current)
    (hcurrent : c'.current = c.current) : Stands source c' (before ++ lexeme) [] ahead where
  text := by simp [h.text]
  start_eq := by rw [hstart, h.current_eq, String.utf8Len_append]
  current_eq := by
    rw [hcurrent, h.current_eq, String.utf8Len_append, String.utf8Len_nil, Nat.add_zero]

/-- At the end of a match, which is not before the first character of the piece. -/
lemma jump {first : Char} {form : Segment.Form} (h : Stands source c before [first] ahead)
    (pattern : Pattern form) :
    c.current ≤ (c.jump (pattern.find (first :: ahead))).current ∧
      ∃ lexeme' ahead',
        Stands source (c.jump (pattern.find (first :: ahead))) before lexeme' ahead' := by
  cases hfind : pattern.find (first :: ahead) with
  | none => exact ⟨Nat.le_refl _, [first], ahead, h⟩
  | some size =>
      obtain ⟨found, ⟨rest, hrest⟩, hlexeme, rfl⟩ := pattern.exists_of_find hfind
      obtain ⟨d, found, rfl⟩ := List.exists_cons_of_ne_nil hlexeme.text_ne_nil
      obtain ⟨rfl, rfl⟩ := List.cons.inj hrest
      have hcurrent := h.current_eq
      have hstart := h.start_eq
      simp only [String.utf8Len_cons, String.utf8Len_nil] at hcurrent
      refine ⟨?_, d :: found, rest, by simp [h.text], h.start_eq, ?_⟩
      · simp only [Cursor.jump, String.utf8Len_cons]
        omega
      · simp only [Cursor.jump, hstart]

end Stands

/-! ## What a step does -/

/-- What a step does behind the first character of a piece, with what is ahead.  The piece is
complete, or the next character belongs to it as well, or a pattern says how long it is. -/
inductive Begins (patterns : Patterns) (c : Cursor) : Char → List Char → Cursor → Prop where
  | single {first : Char} {ahead : List Char} {kind : Token.Kind} (h : single? first = some kind) :
      Begins patterns c first ahead (c.turn (.emitting kind none))
  | extended {first : Char} {rest : List Char} {long short : Token.Kind}
      (h : extensible? first = some (long, short)) :
      Begins patterns c first ('=' :: rest) ((c.pass '=').turn (.emitting long none))
  | unextended {first : Char} {ahead : List Char} {long short : Token.Kind}
      (h : extensible? first = some (long, short)) (hahead : ahead.head? ≠ some '=') :
      Begins patterns c first ahead (c.turn (.emitting short none))
  | lineComment {rest : List Char} :
      Begins patterns c '/' ('/' :: rest) ((c.pass '/').turn .lineComment)
  | blockComment {rest : List Char} :
      Begins patterns c '/' ('*' :: rest) ((c.pass '*').turn .blockComment)
  | slash {ahead : List Char} (hline : ahead.head? ≠ some '/') (hblock : ahead.head? ≠ some '*') :
      Begins patterns c '/' ahead (c.turn (.emitting .slash none))
  | feed {ahead : List Char} :
      Begins patterns c '\n' ahead { c with line := c.line + 1, phase := .between }
  | blank {first : Char} {ahead : List Char} (h : Segment.isSeparator first = true)
      (hfeed : first ≠ '\n') : Begins patterns c first ahead (c.turn .between)
  | quote {ahead : List Char} : Begins patterns c '"' ahead (c.turn .string)
  | digit {first : Char} {ahead : List Char} (h : first.isDigit = true) :
      Begins patterns c first ahead ((c.jump (patterns.number.find (first :: ahead))).turn .number)
  | word {first : Char} {ahead : List Char} (h : Segment.startsWord first = true) :
      Begins patterns c first ahead ((c.jump (patterns.word.find (first :: ahead))).turn .word)
  | stray {first : Char} {ahead : List Char} (hsingle : single? first = none)
      (hextensible : extensible? first = none) (hslash : first ≠ '/')
      (hblank : Segment.isSeparator first = false) (hquote : first ≠ '"')
      (hdigit : first.isDigit = false) (hword : Segment.startsWord first = false) :
      Begins patterns c first ahead (c.report (.unexpectedCharacter (String.ofList [first])))

namespace Stands

variable {c : Cursor} {before lexeme ahead : List Char}

/-- The end of the source is reached where nothing is ahead. -/
lemma size_le_iff (h : Stands source c before lexeme ahead) :
    source.utf8ByteSize ≤ c.current ↔ ahead = [] := by
  rw [h.size_eq, ← String.utf8Len_eq_zero]
  omega

lemma step_between_end (h : Stands source c before lexeme []) (hp : c.phase = .between) :
    c.step patterns source = some c.finish := by
  simp only [step, hp, if_pos (h.size_le_iff.mpr rfl)]

lemma step_between {d : Char} {rest : List Char} (h : Stands source c before lexeme (d :: rest))
    (hp : c.phase = .between) : c.step patterns source = some c.restart := by
  simp [step, hp, h.size_le_iff]

lemma step_opening {d : Char} {rest : List Char} (h : Stands source c before lexeme (d :: rest))
    (hp : c.phase = .opening) : c.step patterns source = some ((c.pass d).turn (.opened d)) := by
  simp [step, hp, h.ahead?_eq]

lemma exists_begins (patterns : Patterns) {first : Char} (h : Stands source c before [first] ahead)
    (hp : c.phase = .opened first) :
    ∃ c', c.step patterns source = some c' ∧ Begins patterns c first ahead c' := by
  simp only [step, hp, begin?, h.ahead?_eq, h.slice?_start]
  cases hsingle : single? first with
  | some kind => exact ⟨_, rfl, .single hsingle⟩
  | none =>
  cases hextensible : extensible? first with
  | some kinds =>
      by_cases hequals : ahead.head? = some '='
      · obtain ⟨rest, rfl⟩ := List.head?_eq_some_iff.mp hequals
        exact ⟨_, rfl, .extended hextensible⟩
      · exact ⟨_, if_neg hequals, .unextended hextensible hequals⟩
  | none =>
  by_cases hslash : first = '/'
  · subst hslash
    simp only [if_true]
    by_cases hline : ahead.head? = some '/'
    · obtain ⟨rest, rfl⟩ := List.head?_eq_some_iff.mp hline
      exact ⟨_, rfl, .lineComment⟩
    by_cases hblock : ahead.head? = some '*'
    · obtain ⟨rest, rfl⟩ := List.head?_eq_some_iff.mp hblock
      exact ⟨_, rfl, .blockComment⟩
    · exact ⟨_, by simp [hline, hblock], .slash hline hblock⟩
  by_cases hfeed : first = '\n'
  · subst hfeed
    exact ⟨_, rfl, .feed⟩
  by_cases hblank : Segment.isSeparator first = true
  · exact ⟨_, by simp [hslash, hfeed, hblank], .blank hblank hfeed⟩
  by_cases hquote : first = '"'
  · subst hquote
    exact ⟨_, rfl, .quote⟩
  by_cases hdigit : first.isDigit = true
  · exact ⟨_, by simp [hslash, hfeed, hblank, hquote, hdigit], .digit hdigit⟩
  by_cases hword : Segment.startsWord first = true
  · exact ⟨_, by simp [hslash, hfeed, hblank, hquote, hdigit, hword], .word hword⟩
  · refine ⟨c.report (.unexpectedCharacter (String.ofList [first])),
      by simp [hslash, hfeed, hblank, hquote, hdigit, hword], ?_⟩
    exact .stray hsingle hextensible hslash (by simpa using hblank) hquote (by simpa using hdigit)
      (by simpa using hword)

/-- A comment of this kind is left where nothing is ahead, or a line feed. -/
lemma step_lineComment_stop (h : Stands source c before lexeme ahead) (hp : c.phase = .lineComment)
    (hstop : ∀ d ∈ ahead.head?, d = '\n') : c.step patterns source = some (c.turn .between) := by
  cases ahead with
  | nil => simp [step, hp, h.ahead?_eq]
  | cons d rest => simp [step, hp, h.ahead?_eq, hstop d rfl]

lemma step_lineComment_pass {d : Char} {rest : List Char}
    (h : Stands source c before lexeme (d :: rest)) (hp : c.phase = .lineComment) (hd : d ≠ '\n') :
    c.step patterns source = some (c.pass d) := by
  simp [step, hp, h.ahead?_eq, hd]

lemma step_blockComment_end (h : Stands source c before lexeme []) (hp : c.phase = .blockComment) :
    c.step patterns source = some (c.report .unterminatedComment) := by
  simp [step, hp, h.ahead?_eq]

lemma step_blockComment_close {rest : List Char}
    (h : Stands source c before lexeme ('*' :: '/' :: rest)) (hp : c.phase = .blockComment) :
    c.step patterns source = some { c with current := c.current + 2, phase := .between } := by
  simp [step, hp, h.ahead?_eq]

lemma step_blockComment_pass {d : Char} {rest : List Char}
    (h : Stands source c before lexeme (d :: rest)) (hp : c.phase = .blockComment)
    (hclose : ¬ (d = '*' ∧ rest.head? = some '/')) :
    c.step patterns source = some (c.passCounting d) := by
  simp [step, hp, h.ahead?_eq, hclose]

/-- The inside of a string is left where nothing is ahead, or a quote. -/
lemma step_string_stop (h : Stands source c before lexeme ahead) (hp : c.phase = .string)
    (hstop : ∀ d ∈ ahead.head?, d = '"') : c.step patterns source = some (c.turn .closing) := by
  cases ahead with
  | nil => simp [step, hp, h.ahead?_eq]
  | cons d rest => simp [step, hp, h.ahead?_eq, hstop d rfl]

lemma step_string_pass {d : Char} {rest : List Char} (h : Stands source c before lexeme (d :: rest))
    (hp : c.phase = .string) (hd : d ≠ '"') : c.step patterns source = some (c.passCounting d) := by
  simp [step, hp, h.ahead?_eq, hd]

lemma step_closing_end (h : Stands source c before lexeme []) (hp : c.phase = .closing) :
    c.step patterns source = some (c.report .unterminatedString) := by
  simp only [step, hp, if_pos (h.size_le_iff.mpr rfl)]

lemma step_closing_pass {d : Char} {rest : List Char}
    (h : Stands source c before lexeme (d :: rest)) (hp : c.phase = .closing) :
    c.step patterns source = some ((c.pass d).turn .closed) := by
  simp [step, hp, h.ahead?_eq, h.size_le_iff]

lemma step_closed {body : List Char} (h : Stands source c before ('"' :: (body ++ ['"'])) ahead)
    (hp : c.phase = .closed) : c.step patterns source =
      some (c.turn (.emitting .string (some (.string (String.ofList body))))) := by
  simp [step, hp, h.slice?_body]

lemma step_number (h : Stands source c before lexeme ahead) (hp : c.phase = .number) :
    c.step patterns source =
      some (c.turn (.emitting .number (some (.number (Segment.decimal lexeme).toFloat)))) := by
  simp [step, hp, h.lexeme?_eq]

lemma step_word (h : Stands source c before lexeme ahead) (hp : c.phase = .word) :
    c.step patterns source = some (c.turn (.emitting (Segment.wordKind lexeme) none)) := by
  simp [step, hp, h.lexeme?_eq]

lemma step_emitting {kind : Token.Kind} {literal : Option Value}
    (h : Stands source c before lexeme ahead) (hp : c.phase = .emitting kind literal) :
    c.step patterns source = some (c.emit kind literal lexeme) := by
  simp [step, hp, h.lexeme?_eq]

end Stands

lemma step_of_done {c : Cursor} (hp : c.phase = .done) : c.step patterns source = some c := by
  simp only [step, hp]

/-! ## Every step moves on -/

/-- How far it is at most to the next character, by what is left to do in a phase. -/
@[simp] def Phase.rank : Phase → Nat
  | .opened _ => 6
  | .lineComment | .blockComment | .string => 5
  | .closing => 4
  | .closed | .number | .word => 3
  | .emitting _ _ => 2
  | .between => 1
  | .opening | .done => 0

/-- A scanner passes something from one state to another, or it stays and gets closer to the next
character. -/
def Moves (c c' : Cursor) : Prop :=
  c.current < c'.current ∨ c.current = c'.current ∧ c'.phase.rank < c.phase.rank

/-- There is a step from a state, to a sound one, and it moves on. -/
def Advances (patterns : Patterns) (source : String) (c : Cursor) : Prop :=
  ∃ c', c.step patterns source = some c' ∧ Sound source c' ∧ Moves c c'

namespace Stands

variable {c c' : Cursor} {before lexeme ahead : List Char}

/-- A step that stays where it is advances by the rank of its phase. -/
lemma advances_of_stays {phase : Phase} (h : Stands source c before lexeme ahead)
    (hp : c.phase = phase) (hstep : c.step patterns source = some c') (hstart : c'.start = c.start)
    (hcurrent : c'.current = c.current) (next : Phase) (hp' : c'.phase = next)
    (hrank : next.rank < phase.rank) (hshape : Shape next lexeme ahead) :
    Advances patterns source c := by
  subst hp hp'
  exact ⟨c', hstep, ⟨before, lexeme, ahead, h.congr hstart hcurrent, hshape⟩,
    .inr ⟨hcurrent.symm, hrank⟩⟩

/-- A step past a character advances in whatever phase. -/
lemma advances_of_passes {d : Char} {rest : List Char} {next : Phase}
    (h : Stands source c before lexeme (d :: rest)) (hstep : c.step patterns source = some c')
    (hstart : c'.start = c.start) (hcurrent : c'.current = c.current + d.utf8Size)
    (hp' : c'.phase = next) (hshape : Shape next (lexeme ++ [d]) rest) :
    Advances patterns source c := by
  subst hp'
  refine ⟨c', hstep, ⟨before, lexeme ++ [d], rest, h.pass hstart hcurrent, hshape⟩, .inl ?_⟩
  have hpos := d.utf8Size_pos
  omega

/-- A step to the end of a match advances, if only by the rank of its phase. -/
lemma advances_of_jumps {first : Char} {form : Segment.Form} {phase : Phase}
    (h : Stands source c before [first] ahead) (pattern : Pattern form)
    (hstep : c.step patterns source =
      some ((c.jump (pattern.find (first :: ahead))).turn phase))
    (hshape : ∀ lexeme ahead, Shape phase lexeme ahead) (hrank : phase.rank < c.phase.rank) :
    Advances patterns source c := by
  obtain ⟨hle, lexeme', ahead', hstands⟩ := h.jump pattern
  refine ⟨_, hstep, ⟨before, lexeme', ahead', hstands.congr rfl rfl, hshape _ _⟩, ?_⟩
  rcases Nat.lt_or_eq_of_le hle with hlt | heq
  · exact .inl hlt
  · exact .inr ⟨heq, hrank⟩

lemma advances_between (h : Stands source c before lexeme ahead) (hp : c.phase = .between) :
    Advances patterns source c := by
  cases ahead with
  | nil =>
      exact h.advances_of_stays hp (h.step_between_end hp) rfl rfl .done rfl (by simp) trivial
  | cons d rest =>
      refine ⟨c.restart, h.step_between hp, ?_, .inr ⟨rfl, by simp [hp, restart]⟩⟩
      exact ⟨before ++ lexeme, [], d :: rest, h.next rfl rfl, rfl, List.cons_ne_nil d rest⟩

lemma advances_opening (h : Stands source c before lexeme ahead) (hp : c.phase = .opening)
    (hshape : Shape .opening lexeme ahead) : Advances patterns source c := by
  obtain ⟨rfl, hne⟩ := hshape
  obtain ⟨d, rest, rfl⟩ := List.exists_cons_of_ne_nil hne
  exact h.advances_of_passes (h.step_opening hp) rfl rfl rfl rfl

lemma advances_opened {first : Char} (h : Stands source c before [first] ahead)
    (hp : c.phase = .opened first) : Advances patterns source c := by
  obtain ⟨c', hstep, hbegins⟩ := h.exists_begins patterns hp
  cases hbegins with
  | @single _ _ kind _ =>
      exact h.advances_of_stays hp hstep rfl rfl (.emitting kind none) rfl (by simp) trivial
  | extended _ => exact h.advances_of_passes hstep rfl rfl rfl trivial
  | @unextended _ _ _ short _ _ =>
      exact h.advances_of_stays hp hstep rfl rfl (.emitting short none) rfl (by simp) trivial
  | lineComment => exact h.advances_of_passes hstep rfl rfl rfl trivial
  | blockComment => exact h.advances_of_passes hstep rfl rfl rfl trivial
  | slash _ _ =>
      exact h.advances_of_stays hp hstep rfl rfl (.emitting .slash none) rfl (by simp) trivial
  | feed => exact h.advances_of_stays hp hstep rfl rfl .between rfl (by simp) trivial
  | blank _ _ => exact h.advances_of_stays hp hstep rfl rfl .between rfl (by simp) trivial
  | quote => exact h.advances_of_stays hp hstep rfl rfl .string rfl (by simp) ⟨[], rfl⟩
  | digit _ =>
      exact h.advances_of_jumps patterns.number hstep (fun _ _ => trivial) (by simp [hp])
  | word _ => exact h.advances_of_jumps patterns.word hstep (fun _ _ => trivial) (by simp [hp])
  | stray _ _ _ _ _ _ _ =>
      exact h.advances_of_stays hp hstep rfl rfl .between rfl (by simp) trivial

lemma advances_lineComment (h : Stands source c before lexeme ahead)
    (hp : c.phase = .lineComment) : Advances patterns source c := by
  by_cases hstop : ∀ d ∈ ahead.head?, d = '\n'
  · exact h.advances_of_stays hp (h.step_lineComment_stop hp hstop) rfl rfl .between rfl (by simp)
      trivial
  · simp only [not_forall, List.head?_eq_some_iff, Option.mem_def] at hstop
    obtain ⟨d, ⟨rest, rfl⟩, hd⟩ := hstop
    exact h.advances_of_passes (h.step_lineComment_pass hp hd) rfl rfl hp trivial

/-- The end of a comment is passed in one step, both characters of it. -/
lemma advances_blockComment (h : Stands source c before lexeme ahead)
    (hp : c.phase = .blockComment) : Advances patterns source c := by
  cases ahead with
  | nil =>
      exact h.advances_of_stays hp (h.step_blockComment_end hp) rfl rfl .between rfl (by simp)
        trivial
  | cons d rest =>
      by_cases hclose : d = '*' ∧ rest.head? = some '/'
      · obtain ⟨rfl, hslash⟩ := hclose
        obtain ⟨rest, rfl⟩ := List.head?_eq_some_iff.mp hslash
        refine ⟨_, h.step_blockComment_close hp, ?_, .inl (Nat.lt_add_of_pos_right Nat.two_pos)⟩
        exact ⟨before, lexeme ++ ['*', '/'], rest, h.past ['*', '/'] rfl rfl, trivial⟩
      · exact h.advances_of_passes (h.step_blockComment_pass hp hclose) rfl rfl hp trivial

lemma advances_string (h : Stands source c before lexeme ahead) (hp : c.phase = .string)
    (hshape : Shape .string lexeme ahead) : Advances patterns source c := by
  obtain ⟨body, rfl⟩ := hshape
  by_cases hstop : ∀ d ∈ ahead.head?, d = '"'
  · exact h.advances_of_stays hp (h.step_string_stop hp hstop) rfl rfl .closing rfl (by simp)
      ⟨⟨body, rfl⟩, hstop⟩
  · simp only [not_forall, List.head?_eq_some_iff, Option.mem_def] at hstop
    obtain ⟨d, ⟨rest, rfl⟩, hd⟩ := hstop
    exact h.advances_of_passes (h.step_string_pass hp hd) rfl rfl hp ⟨body ++ [d], rfl⟩

lemma advances_closing (h : Stands source c before lexeme ahead) (hp : c.phase = .closing)
    (hshape : Shape .closing lexeme ahead) : Advances patterns source c := by
  obtain ⟨⟨body, rfl⟩, hquote⟩ := hshape
  cases ahead with
  | nil =>
      exact h.advances_of_stays hp (h.step_closing_end hp) rfl rfl .between rfl (by simp) trivial
  | cons d rest =>
      obtain rfl := hquote d rfl
      exact h.advances_of_passes (h.step_closing_pass hp) rfl rfl rfl ⟨body, rfl⟩

lemma advances_closed (h : Stands source c before lexeme ahead) (hp : c.phase = .closed)
    (hshape : Shape .closed lexeme ahead) : Advances patterns source c := by
  obtain ⟨body, rfl⟩ := hshape
  exact h.advances_of_stays hp (h.step_closed hp) rfl rfl (.emitting _ _) rfl (by simp) trivial

end Stands

/-- **A sound scanner has a step.**  All slices that the step takes are in the source, and it leads
to a sound scanner and moves on, unless the scanner is done. -/
theorem advances (patterns : Patterns) {c : Cursor} (h : Sound source c) (hp : c.phase ≠ .done) :
    Advances patterns source c := by
  obtain ⟨before, lexeme, ahead, hstands, hshape⟩ := h
  cases hphase : c.phase with
  | between => exact hstands.advances_between hphase
  | opening => exact hstands.advances_opening hphase (hphase ▸ hshape)
  | opened first =>
      rw [hphase] at hshape
      obtain rfl := hshape
      exact hstands.advances_opened hphase
  | lineComment => exact hstands.advances_lineComment hphase
  | blockComment => exact hstands.advances_blockComment hphase
  | string => exact hstands.advances_string hphase (hphase ▸ hshape)
  | closing => exact hstands.advances_closing hphase (hphase ▸ hshape)
  | closed => exact hstands.advances_closed hphase (hphase ▸ hshape)
  | number =>
      exact hstands.advances_of_stays hphase (hstands.step_number hphase) rfl rfl (.emitting _ _)
        rfl (by simp) trivial
  | word =>
      exact hstands.advances_of_stays hphase (hstands.step_word hphase) rfl rfl (.emitting _ _)
        rfl (by simp) trivial
  | emitting kind literal =>
      exact hstands.advances_of_stays hphase (hstands.step_emitting hphase) rfl rfl .between
        rfl (by simp) trivial
  | done => exact absurd hphase hp

/-! ## Whole runs -/

lemma sound_initial (source : String) : Sound source initial :=
  ⟨[], [], source.toList, ⟨rfl, rfl, rfl⟩, trivial⟩

/-- The next state of a run is sound again, and no less far. -/
lemma exists_step (patterns : Patterns) {c : Cursor} (h : Sound source c) :
    ∃ c', c.step patterns source = some c' ∧ Sound source c' ∧ c.current ≤ c'.current := by
  by_cases hp : c.phase = .done
  · exact ⟨c, step_of_done hp, h, Nat.le_refl _⟩
  · obtain ⟨c', hstep, hsound, hmoves⟩ := advances patterns h hp
    refine ⟨c', hstep, hsound, ?_⟩
    rcases hmoves with hlt | ⟨heq, -⟩ <;> omega

lemma after_succ {n : Nat} {c : Cursor} (hc : after patterns source n = some c) :
    after patterns source (n + 1) = c.step patterns source := by
  rw [after, hc, Option.bind_some]

/-- **A scanner never leaves the source.**  After any number of steps there is a scanner, and it is
sound. -/
theorem exists_after (patterns : Patterns) (source : String) (n : Nat) :
    ∃ c, after patterns source n = some c ∧ Sound source c := by
  induction n with
  | zero => exact ⟨initial, rfl, sound_initial source⟩
  | succ n ih =>
      obtain ⟨c, hc, hsound⟩ := ih
      obtain ⟨c', hstep, hsound', -⟩ := exists_step patterns hsound
      exact ⟨c', (after_succ hc).trans hstep, hsound'⟩

lemma sound_of_after {n : Nat} {c : Cursor} (hc : after patterns source n = some c) :
    Sound source c := by
  obtain ⟨c', hc', hsound⟩ := exists_after patterns source n
  rw [hc] at hc'
  rwa [Option.some.inj hc']

lemma current_le_of_after {i j : Nat} (hij : i ≤ j) {c c' : Cursor}
    (hc : after patterns source i = some c) (hc' : after patterns source j = some c') :
    c.current ≤ c'.current := by
  induction j, hij using Nat.le_induction generalizing c' with
  | base =>
      rw [hc] at hc'
      rw [Option.some.inj hc']
  | succ j _ ih =>
      obtain ⟨between, hbetween, hsound⟩ := exists_after patterns source j
      obtain ⟨next, hstep, -, hle⟩ := exists_step patterns hsound
      rw [after_succ hbetween, hstep] at hc'
      obtain rfl := Option.some.inj hc'
      exact (ih hbetween).trans hle

lemma after_of_done {i j : Nat} (hij : i ≤ j) {c : Cursor} (hc : after patterns source i = some c)
    (hp : c.phase = .done) : after patterns source j = some c := by
  induction j, hij using Nat.le_induction with
  | base => exact hc
  | succ j _ ih => rw [after_succ ih, step_of_done hp]

lemma eq_of_done {i j : Nat} {c c' : Cursor} (hc : after patterns source i = some c)
    (hc' : after patterns source j = some c') (hp : c.phase = .done) (hp' : c'.phase = .done) :
    c = c' := by
  rcases Nat.le_total i j with hij | hji
  · exact Option.some.inj ((after_of_done hij hc hp).symm.trans hc')
  · exact Option.some.inj (hc.symm.trans (after_of_done hji hc' hp'))

/-- **A scanner moves with every piece.**  Of two times at which it stands between pieces, it has
come further by the later. -/
theorem current_lt_of_between {i j : Nat} (hij : i < j) {c c' : Cursor}
    (hc : after patterns source i = some c) (hc' : after patterns source j = some c')
    (hp : c.phase = .between) (hp' : c'.phase = .between) : c.current < c'.current := by
  by_cases hend : source.utf8ByteSize ≤ c.current
  · -- at the end the scanner is done, and stays so
    have hdone : after patterns source (i + 1) = some c.finish := by
      rw [after_succ hc]
      simp only [step, hp, if_pos hend]
    rw [after_of_done hij hdone rfl] at hc'
    obtain rfl := Option.some.inj hc'
    cases hp'
  · -- otherwise a piece is opened, which passes its first character
    have hopening : after patterns source (i + 1) = some c.restart := by
      rw [after_succ hc]
      simp only [step, hp, if_neg hend]
    obtain ⟨opened, hstep, -, hmoves⟩ :=
      advances patterns (sound_of_after hopening) (by simp [restart])
    have hlt : c.current < opened.current := by
      rcases hmoves with hlt | ⟨-, hrank⟩
      · exact hlt
      · exact absurd hrank (Nat.not_lt_zero _)
    have hj : i + 2 ≤ j := by
      by_contra hless
      obtain rfl : j = i + 1 := by omega
      rw [hopening] at hc'
      obtain rfl := Option.some.inj hc'
      cases hp'
    exact hlt.trans_le (current_le_of_after hj ((after_succ hopening).trans hstep) hc')

/-- How many steps a scanner may still take. -/
def distance (source : String) (c : Cursor) : Nat :=
  7 * (source.utf8ByteSize - c.current) + c.phase.rank

lemma distance_lt {c c' : Cursor} (h : Moves c c') (hsound : Sound source c') :
    c'.distance source < c.distance source := by
  obtain ⟨before, lexeme, ahead, hstands, -⟩ := hsound
  have hle := hstands.inside.current_le
  have hrank : c'.phase.rank < 7 := by cases c'.phase <;> simp
  simp only [distance]
  rcases h with hlt | ⟨heq, hlt⟩ <;> omega

/-- **A scanner comes to its end**, by induction on the steps that are left. -/
theorem exists_done {n : Nat} {c : Cursor} (hc : after patterns source n = some c) :
    ∃ m, ∃ c' ∈ after patterns source m, c'.phase = .done := by
  induction hleft : c.distance source using Nat.strong_induction_on generalizing n c with
  | _ left ih =>
      by_cases hp : c.phase = .done
      · exact ⟨n, c, hc, hp⟩
      · obtain ⟨c', hstep, hsound, hmoves⟩ := advances patterns (sound_of_after hc) hp
        exact ih _ (hleft ▸ distance_lt hmoves hsound) ((after_succ hc).trans hstep) rfl

end Cursor

end Reckon
