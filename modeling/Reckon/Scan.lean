import Reckon.Diagnostic
import Reckon.Segment
import Reckon.Text.Lines
import Reckon.Token

/-!
# Scanning

The tokens of a source, and what is wrong with its text. Each piece of the source is a token, a
fault, or neither, and a fault does not keep the pieces after it from being tokens. What a piece
yields carries the line on which the piece ends, so a string over several lines carries the line
of its closing quote.
-/

namespace Reckon

/-! ## Lines of pieces -/

/-- A piece of source and the line on which it ends. -/
structure Located where
  segment : Segment
  line : Nat
  deriving DecidableEq, Repr

/-- The pieces with the lines on which they end, the first starting on `line`, behind those
already located, which are given in reverse. -/
def locateInto (found : List Located) (line : Nat) : List Segment → List Located
  | [] => found.reverse
  | piece :: rest =>
    let after := line + Text.lineFeeds piece.text
    locateInto (⟨piece, after⟩ :: found) after rest

/-- The pieces with the lines on which they end, the first starting on `line`. -/
def locate (line : Nat) (pieces : List Segment) : List Located :=
  locateInto [] line pieces

/-! ## What a piece yields -/

namespace Segment

/-- The decimal that a number is written as. -/
def decimal (text : List Char) : Number.Decimal :=
  .ofDigits (text.takeWhile Char.isDigit) ((text.dropWhile Char.isDigit).drop 1)

/-- What a string says: the text between its quotes. Nothing in it is special. -/
def unquoted (text : List Char) : List Char :=
  (text.drop 1).dropLast

/-- The kind of token that a word is. -/
def wordKind (text : List Char) : Token.Kind :=
  match Keyword.ofSpelling? (String.ofList text) with
  | some word => .keyword word
  | none => .identifier

/-- The kind and literal of the token that a piece is. -/
def meaning? (piece : Segment) : Option (Token.Kind × Option Value) :=
  match piece.form with
  | .symbol kind => some (kind, none)
  | .string => some (.string, some (.string (String.ofList (unquoted piece.text))))
  | .number => some (.number, some (.number (decimal piece.text).toFloat))
  | .word => some (wordKind piece.text, none)
  | _ => none

/-- What is wrong with a piece. -/
def fault? (piece : Segment) : Option Fault :=
  match piece.form with
  | .stray => some (.unexpectedCharacter (String.ofList piece.text))
  | .openString => some .unterminatedString
  | .openComment => some .unterminatedComment
  | _ => none

end Segment

namespace Located

/-- The token that a piece is. -/
def token? (piece : Located) : Option Token :=
  piece.segment.meaning?.map fun (kind, literal) =>
    ⟨kind, String.ofList piece.segment.text, literal, piece.line⟩

/-- What is wrong with a piece, and where. -/
def diagnostic? (piece : Located) : Option Diagnostic :=
  piece.segment.fault?.map (⟨·, piece.line⟩)

end Located

/-! ## A whole source -/

/-- What scanning a source yields. -/
structure Scan where
  tokens : List Token
  diagnostics : List Diagnostic
  deriving DecidableEq, Repr

/-- Scans a source. The tokens end with the end of the input, on the last line. -/
def scan (source : String) : Scan :=
  let text := source.toList
  let pieces := locate 1 (segments text)
  { tokens := pieces.filterMap Located.token? ++ [Token.endAt (1 + Text.lineFeeds text)]
    diagnostics := pieces.filterMap Located.diagnostic? }

end Reckon
