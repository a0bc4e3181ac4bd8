import Reckon.Parser.Rules

/-!
# Parsers

A parser is a stream of tokens together with the number of levels that are open. The levels that a
failed rule leaves open stay open in the parser, so what is read later has the less room.
-/

namespace Reckon

/-- The state of reading. -/
structure Parser where
  stream : Stream
  nesting : Nat

namespace Parser

/-- A parser at the start of a list of tokens. -/
def ofTokens (tokens : List Token) : Parser :=
  ⟨Stream.ofTokens tokens, 0⟩

/-- Reads the current token. -/
def advance (p : Parser) : Token × Parser :=
  let (t, rest) := p.stream.advance
  (t, { p with stream := rest })

/-- Reads the current token if it is of one of the kinds. -/
def accept? (p : Parser) (kinds : List Token.Kind) : Option (Token × Parser) :=
  (p.stream.accept? kinds).map fun (t, rest) => (t, { p with stream := rest })

/-- Reads a token of a kind, or fails as told. -/
def expect (p : Parser) (kind : Token.Kind) (otherwise : Diagnostic) :
    Except Diagnostic (Token × Parser) :=
  if p.stream.check kind then .ok p.advance else .error otherwise

/-- Opens a level. -/
def enter (p : Parser) : Except Diagnostic Parser :=
  if maxDepth ≤ p.nesting then .error p.stream.current.tooDeep
  else .ok { p with nesting := p.nesting + 1 }

/-- Closes a level, if one is open. -/
def leave (p : Parser) : Parser :=
  { p with nesting := p.nesting - 1 }

/-- How many levels can be opened. -/
def room (p : Parser) : Nat :=
  maxDepth - p.nesting

/-- Refuses a depth beyond the limit, at a token. -/
def checkDepth (depth : Nat) (t : Token) : Except Diagnostic Unit :=
  if maxDepth < depth then .error t.tooDeep else .ok ()

/-- Skips to the next statement boundary. -/
def synchronize (p : Parser) : Parser :=
  { p with stream := p.stream.synchronize }

/-- Reads by a rule. -/
def read (p : Parser) (rule : Rule) : Except Diagnostic Expr × Parser :=
  match rule.read p.room p.stream with
  | .ok (e, rest) => (.ok e, { p with stream := rest })
  | .error stop => (.error stop.diagnostic, ⟨stop.rest, p.nesting + stop.leftOpen⟩)

end Parser

/-- Reads one expression from the start of a list of tokens. Tokens behind it are ignored. -/
def parse (tokens : List Token) : Except Diagnostic Expr :=
  ((Parser.ofTokens tokens).read .expression).1

end Reckon
