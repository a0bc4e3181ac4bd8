/-!
# Diagnostics

What can be wrong with a source, as causes with the texts that they name, and the wording of each.
A diagnostic is a cause together with the line it is found on.

* Scanning finds strings and comments without an end, and characters that start no token.
* Reading finds a missing operand, a missing parenthesis, and expressions that nest too deeply.
* Evaluation finds operators that are none, and operands of a kind that an operator does not take.
-/

namespace Reckon

/-- A cause of failure. -/
inductive Fault where
  | unterminatedString
  | unterminatedComment
  | unexpectedCharacter (character : String)
  | unterminatedGrouping (found : String)
  | expectedExpression (found : String)
  | tooDeeplyNested (limit : Nat)
  | unsupportedOperator (operator : String)
  | operandNotNumber (operator received : String)
  | operandNotString (operator received : String)
  | operandNotBool (operator received : String)
  deriving DecidableEq, Repr

namespace Fault

/-- The name of a cause. -/
def name : Fault → String
  | .unterminatedString => "UnterminatedString"
  | .unterminatedComment => "UnterminatedBlockComment"
  | .unexpectedCharacter _ => "UnexpectedToken"
  | .unterminatedGrouping _ => "UnterminatedExpression"
  | .expectedExpression _ => "ExpectedExpression"
  | .tooDeeplyNested _ => "TooDeeplyNested"
  | .unsupportedOperator _ => "UnsupportedOperator"
  | .operandNotNumber .. => "OperandNotANumber"
  | .operandNotString .. => "OperandNotAString"
  | .operandNotBool .. => "OperandNotABool"

/-- A cause in one clause, without what it names. -/
def summary : Fault → String
  | .unterminatedString => "Unterminated string"
  | .unterminatedComment => "Unterminated block comment"
  | .unexpectedCharacter _ => "Unexpected token"
  | .unterminatedGrouping _ => "Expect ')' after expression"
  | .expectedExpression _ => "Expected expression"
  | .tooDeeplyNested _ => "Expression nests too deeply"
  | .unsupportedOperator _ => "Unsupported operator"
  | .operandNotNumber .. => "Operand must be a number"
  | .operandNotString .. => "Operand must be a string"
  | .operandNotBool .. => "Operand must be a bool"

/-- The tip for an operator that received an operand of another kind than it takes. -/
def operandTip (operator expected received : String) : String :=
  s!"Operator `{operator}` expected a {expected}, received `{received}`"

/-- What a cause names, and what to do about it. Nothing is left to say of an open string. -/
def tip? : Fault → Option String
  | .unterminatedString => none
  | .unterminatedComment => some "Close the comment with `*/`"
  | .unexpectedCharacter character => some s!"Unexpected character: `{character}`"
  | .unterminatedGrouping found => some s!"Found `{found}` where `)` was expected"
  | .expectedExpression found => some s!"Found `{found}` where an expression was expected"
  | .tooDeeplyNested limit =>
    some s!"Operators and groupings may nest at most {limit} levels deep"
  | .unsupportedOperator operator => some s!"Operator `{operator}` is not supported here"
  | .operandNotNumber operator received => some (operandTip operator "number" received)
  | .operandNotString operator received => some (operandTip operator "string" received)
  | .operandNotBool operator received => some (operandTip operator "bool" received)

end Fault

/-- A cause of failure and the line it is found on. -/
structure Diagnostic where
  fault : Fault
  line : Nat
  deriving DecidableEq, Repr

/-- The message of a diagnostic on one line. -/
def Diagnostic.message (d : Diagnostic) : String :=
  s!"[line {d.line}] ERROR: {d.fault.summary}."

end Reckon
