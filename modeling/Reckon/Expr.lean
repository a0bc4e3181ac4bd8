import Reckon.Text.Quoted
import Reckon.Token

/-!
# Expressions

An expression is a tree of operators over literal values. An operator node keeps its token, for
its spelling and its line, and a pair of parentheses is a node of its own.

* `Expr.depth` counts the levels of a tree, which reading limits.
* `Expr.text` writes a tree with each operator before its operands, so that the shape of the tree
  can be seen: `(1 + 2) * 3` is written `(* (group (+ 1.0 2.0)) 3.0)`.
-/

namespace Reckon

/-- An expression. -/
inductive Expr where
  | literal (value : Value)
  | grouping (inner : Expr)
  | unary (operator : Token) (operand : Expr)
  | binary (left : Expr) (operator : Token) (right : Expr)
  deriving DecidableEq, Repr

namespace Expr

/-- The number of operators and groupings above the deepest literal. -/
def depth : Expr → Nat
  | .literal _ => 0
  | .grouping inner => inner.depth + 1
  | .unary _ operand => operand.depth + 1
  | .binary left _ right => max left.depth right.depth + 1

/-- The name of the outermost node of an expression. -/
def nodeName : Expr → String
  | .literal _ => "Literal"
  | .grouping _ => "Grouping"
  | .unary .. => "Unary"
  | .binary .. => "Binary"

/-- A literal as it stands in an expression: a string is quoted. -/
def literalText : Value → String
  | .string s => String.ofList (Text.quoted s.toList)
  | value => value.text

/-- An expression with each operator before its operands. -/
def text : Expr → String
  | .literal value => literalText value
  | .grouping inner => "(group " ++ inner.text ++ ")"
  | .unary operator operand => "(" ++ operator.lexeme ++ " " ++ operand.text ++ ")"
  | .binary left operator right =>
    "(" ++ operator.lexeme ++ " " ++ left.text ++ " " ++ right.text ++ ")"

end Expr

end Reckon
