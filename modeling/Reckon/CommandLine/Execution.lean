import Reckon.CommandLine.Options
import Reckon.Diagnostic.Render
import Reckon.Run

/-!
# Execution

What the program prints for a source. The tokens are printed after scanning if that is asked for,
the tree after reading, and the value after evaluation; what is wrong goes to the other channel,
with the lines it is found on.
-/

namespace Reckon.CommandLine

/-- What is printed, on standard output and on standard error. -/
structure Output where
  out : String
  err : String
  deriving DecidableEq, Repr

namespace Output

/-- Nothing is printed. -/
def none : Output := ⟨"", ""⟩

/-- Printed on standard output. -/
def toOut (text : String) : Output := ⟨text, ""⟩

/-- Printed on standard error. -/
def toErr (text : String) : Output := ⟨"", text⟩

/-- Printed first the one, then the other. -/
def append (first second : Output) : Output :=
  ⟨first.out ++ second.out, first.err ++ second.err⟩

instance : Append Output := ⟨append⟩

end Output

/-- How far a source got: to its value, or to a fault before or during evaluation. -/
inductive Outcome where
  | success
  | staticError
  | runtimeError
  deriving DecidableEq, Repr

/-- The exit code of the program for a source file. -/
def Outcome.exitCode : Outcome → Nat
  | .success => 0
  | .staticError => 65
  | .runtimeError => 70

/-- Lines on standard output, if they are asked for. -/
def linesIf (asked : Bool) (lines : List String) : Output :=
  if asked then .toOut (String.join (lines.map (· ++ "\n"))) else .none

/-- Evaluates an expression of a source and prints its value. -/
def finish (source : String) (e : Expr) : Output × Outcome :=
  match e.eval with
  | .error d => (.toErr (Diagnostic.render source [d]), .runtimeError)
  | .ok value => (.toOut (value.text ++ "\n"), .success)

/-- Runs a source and prints what is asked for. -/
def execute (flags : Flags) (source : String) : Output × Outcome :=
  let scanned := scan source
  let tokens := linesIf flags.tokens (scanned.tokens.map Token.text)
  if scanned.diagnostics.isEmpty then
    match parse scanned.tokens with
    | .error d => (tokens ++ .toErr (Diagnostic.render source [d]), .staticError)
    | .ok e =>
      let tree := linesIf flags.tree [e.text]
      let (rest, outcome) := finish source e
      (tokens ++ tree ++ rest, outcome)
  else (tokens ++ .toErr (Diagnostic.render source scanned.diagnostics), .staticError)

end Reckon.CommandLine
