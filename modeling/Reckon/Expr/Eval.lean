import Reckon.Diagnostic
import Reckon.Expr
import Reckon.Operator

/-!
# Evaluation

The value of an expression, or the first thing that goes wrong. Operands are evaluated before
their operator, the left one first, and a fault is found on the line of the operator.
-/

namespace Reckon

namespace Token

/-- The diagnostic of an operator that does not apply to its operands. -/
def mismatch (operator : Token) : Mismatch → Diagnostic
  | .notNumber received => ⟨.operandNotNumber operator.lexeme received.name, operator.line⟩
  | .notBool received => ⟨.operandNotBool operator.lexeme received.name, operator.line⟩

/-- The diagnostic of a token that is no operator. -/
def unsupported (operator : Token) : Diagnostic :=
  ⟨.unsupportedOperator operator.describe, operator.line⟩

/-- Applies the operator that a token stands for to one value. -/
def applyUnary (operator : Token) (operand : Value) : Except Diagnostic Value :=
  match operator.kind.unaryOp? with
  | some op => (op.apply operand).mapError operator.mismatch
  | none => .error operator.unsupported

/-- Applies the operator that a token stands for to two values. -/
def applyBinary (operator : Token) (left right : Value) : Except Diagnostic Value :=
  match operator.kind.binaryOp? with
  | some op => (op.apply left right).mapError operator.mismatch
  | none => .error operator.unsupported

end Token

namespace Expr

/-- The value of an expression. -/
def eval : Expr → Except Diagnostic Value
  | .literal value => .ok value
  | .grouping inner => inner.eval
  | .unary operator operand => do
    let value ← operand.eval
    operator.applyUnary value
  | .binary left operator right => do
    let leftValue ← left.eval
    let rightValue ← right.eval
    operator.applyBinary leftValue rightValue

end Expr

end Reckon
