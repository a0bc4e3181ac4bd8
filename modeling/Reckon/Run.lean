import Reckon.Expr.Eval
import Reckon.Parser
import Reckon.Scan

/-!
# Running a source

A source is scanned, one expression is read from its tokens, and the expression is evaluated. The
first of these that goes wrong is the last that is tried. Only scanning can find more than one
thing wrong.
-/

namespace Reckon

/-- The value of the expression that a source holds, or what is wrong with it. -/
def run (source : String) : Except (List Diagnostic) Value :=
  let scanned := scan source
  if scanned.diagnostics.isEmpty then
    match parse scanned.tokens with
    | .error d => .error [d]
    | .ok e =>
      match e.eval with
      | .error d => .error [d]
      | .ok value => .ok value
  else .error scanned.diagnostics

end Reckon
