import Reckon.Diagnostic
import Reckon.Text.Blank
import Reckon.Text.Lines

/-!
# Rendered diagnostics

A diagnostic is shown as a block of lines: its message, the source line it points at under an empty
gutter line, and its tip. The gutter is as wide as the line number, so its bar and the sign before
the tip stand in one column:

```text
[line 2] ERROR: Operand must be a number.
  |
2 | -true
  = Operator `-` expected a number, received `bool`
```

A diagnostic whose line the source does not have is shown without the two lines in the middle.
-/

namespace Reckon.Diagnostic

/-- A sign in the gutter, right of the column of line numbers. -/
def gutter (line : Nat) (sign : Char) : String :=
  String.ofList (List.leftpad ((Nat.toDigits 10 line).length + 2) ' ' [sign])

/-- A source line and the gutter line above it. -/
def excerpt (line : Nat) (text : List Char) : List String :=
  [gutter line '|', s!"{line} | " ++ String.ofList (Text.trim text)]

/-- The lines that show a diagnostic against the lines of a source. -/
def block (source : List (List Char)) (d : Diagnostic) : List String :=
  let middle := match Text.numbered? source d.line with
    | some text => excerpt d.line text
    | none => []
  let last := match d.fault.tip? with
    | some tip => [gutter d.line '=' ++ " " ++ tip]
    | none => []
  d.message :: (middle ++ last)

/-- The blocks of several diagnostics in order, each line ended by a line feed. -/
def render (source : String) (diagnostics : List Diagnostic) : String :=
  let lines := Text.lines source.toList
  String.join ((diagnostics.flatMap (block lines)).map (· ++ "\n"))

end Reckon.Diagnostic
