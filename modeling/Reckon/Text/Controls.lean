/-!
# Control sequences

A terminal takes some characters for commands: single control characters, and sequences that start
with the escape character. `withoutControls` leaves of a text what a terminal would show.

A sequence is told by the character behind the escape. A control sequence proper lasts until a
letter or a like sign, a system command until a bell, and a string until a string terminator. Any
of them is broken off by a cancellation, or by the escape character of another sequence.
-/

namespace Reckon.Text

/-- The character that starts a sequence. -/
def escapeCharacter : Char := '\x1b'

/-- Whether a character breaks a sequence off. -/
def isCancellation (c : Char) : Bool :=
  c = '\x18' || c = '\x1a'

/-- Whether a character is a control character that moves to another place of the text. -/
def isLayout (c : Char) : Bool :=
  c = '\t' || c = '\n' || c = '\x0c' || c = '\r'

/-- Whether a terminal shows a character. -/
def isShown (c : Char) : Bool :=
  isLayout c || ' ' ≤ c && c != '\x7f'

/-- Whether a character lies between two others, both included. -/
def isBetween (low high c : Char) : Bool :=
  low ≤ c && c ≤ high

/-- Whether a string ends with a character: its encoding has the byte of the string terminator. -/
def endsString (c : Char) : Bool :=
  (String.utf8EncodeChar c).contains 0x9c

/-- The part of a sequence that a reader is in. -/
inductive Sequence where
  | outside
  | escape
  | escapeTail
  | control
  | command
  | stringHead
  | string
  deriving DecidableEq, Repr

namespace Sequence

/-- The part of a sequence that follows a character. -/
def next : Sequence → Char → Sequence
  | .outside, _ => .outside
  | .escape, '[' => .control
  | .escape, ']' => .command
  | .escape, 'P' => .stringHead
  | .escape, 'X' => .string
  | .escape, '^' => .string
  | .escape, '_' => .string
  | .escape, c =>
    if isBetween ' ' '/' c then .escapeTail
    else if isBetween '0' '~' c then .outside
    else .escape
  | .escapeTail, c => if isBetween '0' '~' c then .outside else .escapeTail
  | .control, c => if isBetween '@' '~' c then .outside else .control
  | .command, c => if c = '\x07' then .outside else .command
  | .stringHead, c => if isBetween '@' '~' c then .string else .stringHead
  | .string, c => if endsString c then .outside else .string

/-- Whether layout characters keep their effect in this part of a sequence. -/
def allowsLayout : Sequence → Bool
  | .escape | .escapeTail | .control => true
  | _ => false

end Sequence

/-- A reader of a text with control sequences. A layout character inside a sequence interrupts it:
what follows is shown, up to a control character of another kind, where the sequence goes on. -/
structure ControlReader where
  sequence : Sequence
  interrupted : Bool
  deriving DecidableEq, Repr

namespace ControlReader

/-- At first the reader is outside of any sequence. -/
def initial : ControlReader :=
  ⟨.outside, false⟩

/-- Whether characters are shown, unless they are control characters. -/
def isOpen (reader : ControlReader) : Bool :=
  reader.interrupted || reader.sequence = .outside

/-- Whether the terminal shows the next character. -/
def shows (reader : ControlReader) (c : Char) : Bool :=
  if reader.isOpen then isShown c else reader.sequence.allowsLayout && isLayout c

/-- The reader behind a character. A character outside of ASCII ends an interrupted sequence. -/
def next (reader : ControlReader) (c : Char) : ControlReader :=
  if c = escapeCharacter then ⟨.escape, false⟩
  else if isCancellation c then ⟨.outside, false⟩
  else if reader.isOpen then
    if !isShown c then { reader with interrupted := false }
    else if '\x7f' < c then .initial
    else reader
  else if reader.shows c then { reader with interrupted := true }
  else ⟨reader.sequence.next c, false⟩

/-- What is shown of a text. -/
def shown (reader : ControlReader) : List Char → List Char
  | [] => []
  | c :: rest =>
    if reader.shows c then c :: (reader.next c).shown rest else (reader.next c).shown rest

/-- Nothing is added to a text, and its order is kept. -/
theorem shown_sublist (reader : ControlReader) (text : List Char) :
    (reader.shown text).Sublist text := by
  induction text generalizing reader with
  | nil => exact .slnil
  | cons c rest ih =>
      rw [shown]
      split
      · exact (ih _).cons_cons c
      · exact (ih _).cons c

end ControlReader

/-- A text without what a terminal takes for commands. -/
def withoutControls (text : String) : String :=
  String.ofList (ControlReader.initial.shown text.toList)

end Reckon.Text
