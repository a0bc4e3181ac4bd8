import Reckon.Token

/-!
# Token streams

The tokens still to be read. A stream always ends with an end of the input, which is kept apart
from the tokens before it, so there is a current token at every point. An end of the input may
also stand among those tokens: a stream is never read beyond the first.
-/

namespace Reckon

/-- The tokens still to be read, and the end of the input behind them. -/
structure Stream where
  pending : List Token
  final : Token
  final_isEnd : final.kind = .endOfInput

namespace Stream

/-- The stream of a list of tokens. One that does not end with an end of the input gets one, on the
line of its last token. -/
def ofTokens (tokens : List Token) : Stream :=
  match tokens.getLast? with
  | none => ⟨[], Token.endAt 1, rfl⟩
  | some last =>
    if h : last.kind = .endOfInput then ⟨tokens.dropLast, last, h⟩
    else ⟨tokens, Token.endAt last.line, rfl⟩

/-- The token to be read next. -/
def current (s : Stream) : Token :=
  s.pending.headD s.final

/-- Whether the stream stands at an end of the input. -/
def atEnd (s : Stream) : Bool :=
  s.current.isEnd

/-- The number of tokens behind the current one. -/
def remaining (s : Stream) : Nat :=
  s.pending.length

/-- The stream with other tokens before its end. -/
def withPending (s : Stream) (pending : List Token) : Stream :=
  { s with pending }

/-- Reads the current token. An end of the input is read and stays. -/
def advance (s : Stream) : Token × Stream :=
  match s.pending with
  | [] => (s.final, s)
  | t :: rest => if t.isEnd then (t, s) else (t, s.withPending rest)

/-- Whether the current token is of a kind. Nothing is, at an end of the input. -/
def check (s : Stream) (kind : Token.Kind) : Bool :=
  !s.atEnd && s.current.kind == kind

/-- Reads the current token if it is of one of the kinds. -/
def accept? (s : Stream) (kinds : List Token.Kind) : Option (Token × Stream) :=
  if !s.atEnd && kinds.contains s.current.kind then some s.advance else none

/-- The tokens from the first statement boundary on. `previous` is the kind of the token read last:
behind a semicolon is a boundary, and so is before a token that starts a statement. -/
def fromBoundary (previous : Token.Kind) : List Token → List Token
  | [] => []
  | t :: rest =>
    if t.isEnd || previous == .semicolon || t.kind.startsStatement then t :: rest
    else fromBoundary t.kind rest

/-- Skips the current token, and then all up to the next statement boundary or the end. -/
def synchronize (s : Stream) : Stream :=
  let (skipped, rest) := s.advance
  rest.withPending (fromBoundary skipped.kind rest.pending)

end Stream

end Reckon
