import Reckon.Run

/-!
# Sessions

Several sources against one log of diagnostics. Scanning, reading and evaluation add what they find
at the end of the log and never look at it, so each source of a session fares as it would alone.
Unlike `run`, a session reads whatever tokens a source has, faults of its text or not.
-/

namespace Reckon

/-- The diagnostics so far, in the order in which they were found. -/
abbrev Log := List Diagnostic

/-- A computation that adds to a log. -/
abbrev Reporting := StateM Log

namespace Reporting

/-- Adds diagnostics to the log. -/
def report (diagnostics : List Diagnostic) : Reporting Unit :=
  modify (· ++ diagnostics)

/-- A result, or none and its diagnostic in the log. -/
def settle {α : Type} : Except Diagnostic α → Reporting (Option α)
  | .ok result => pure (some result)
  | .error d => do
    report [d]
    pure none

/-- The token that a piece of source is. What is wrong with the piece goes to the log. -/
def piece (located : Located) : Reporting (Option Token) := do
  match located.diagnostic? with
  | some d => report [d]
  | none => pure ()
  pure located.token?

/-- The tokens of a source. Its pieces are gone through in order, and each is reported on before the
next. -/
def tokens (source : String) : Reporting (List Token) := do
  let text := source.toList
  let found ← (locate 1 (segments text)).filterMapM piece
  pure (found ++ [Token.endAt (1 + Text.lineFeeds text)])

/-- The expression at the start of a list of tokens. -/
def expression (tokens : List Token) : Reporting (Option Expr) :=
  settle (parse tokens)

/-- The value of an expression. -/
def value (e : Expr) : Reporting (Option Value) :=
  settle e.eval

end Reporting

/-- What a source comes to in a session. -/
structure Attempt where
  tokens : List Token
  expression : Option Expr
  value : Option Value
  deriving DecidableEq, Repr

/-- Goes as far with a source as it can. -/
def attempt (source : String) : Reporting Attempt := do
  let tokens ← Reporting.tokens source
  match ← Reporting.expression tokens with
  | none => pure ⟨tokens, none, none⟩
  | some e => do
    let value ← Reporting.value e
    pure ⟨tokens, some e, value⟩

/-- Attempts the sources of a session in order. -/
def session (sources : List String) : Reporting (List Attempt) :=
  sources.mapM attempt

end Reckon
