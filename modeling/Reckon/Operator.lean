import Reckon.Token

/-!
# Operators

The operators by what they do to values, and the kinds of token that stand for them. Minus stands
for two, by the number of its operands. An operator applies to some kinds of operand only and says
of others which kind it would have taken. Where operands are of kinds that do not go together, the
first that is not a number is to blame.
-/

namespace Reckon

/-- An operator with one operand. -/
inductive UnaryOp where
  | negate
  | not
  deriving DecidableEq, Repr

/-- An operator with two operands. -/
inductive BinaryOp where
  | add
  | subtract
  | multiply
  | divide
  | greater
  | greaterEqual
  | less
  | lessEqual
  | equal
  | notEqual
  deriving DecidableEq, Repr

/-- The operator with one operand that a kind of token stands for. -/
def Token.Kind.unaryOp? : Token.Kind → Option UnaryOp
  | .minus => some .negate
  | .bang => some .not
  | _ => none

/-- The operator with two operands that a kind of token stands for. -/
def Token.Kind.binaryOp? : Token.Kind → Option BinaryOp
  | .plus => some .add
  | .minus => some .subtract
  | .star => some .multiply
  | .slash => some .divide
  | .greater => some .greater
  | .greaterEqual => some .greaterEqual
  | .less => some .less
  | .lessEqual => some .lessEqual
  | .equalEqual => some .equal
  | .bangEqual => some .notEqual
  | _ => none

/-- Why an operator does not apply: an operand of one kind where another was expected. -/
inductive Mismatch where
  | notNumber (received : Value.Kind)
  | notBool (received : Value.Kind)
  deriving DecidableEq, Repr

namespace UnaryOp

/-- The value of an operator on its operand. Only truth values can be negated by `not`. -/
def apply : UnaryOp → Value → Except Mismatch Value
  | .negate, .number x => .ok (.number (-x))
  | .negate, other => .error (.notNumber other.kind)
  | .not, .bool b => .ok (.bool !b)
  | .not, other => .error (.notBool other.kind)

end UnaryOp

namespace BinaryOp

/-- Blames the first operand that is not a number. -/
def blame (left right : Value) : Mismatch :=
  if left.kind = .number then .notNumber right.kind else .notNumber left.kind

/-- Applies an operation that takes two numbers. -/
def onNumbers (operation : Float → Float → Value) : Value → Value → Except Mismatch Value
  | .number x, .number y => .ok (operation x y)
  | left, right => .error (blame left right)

/-- The sum of two numbers, or two strings one after the other. -/
def sum : Value → Value → Except Mismatch Value
  | .number x, .number y => .ok (.number (x + y))
  | .string s, .string t => .ok (.string (s ++ t))
  | left, right => .error (blame left right)

/-- Whether two values can be compared for equality: values of one kind can, and nil with all. -/
def comparable (left right : Value) : Bool :=
  left.kind == right.kind || left.kind == .nil || right.kind == .nil

/-- Whether two values are equal, if they can be compared. -/
def equality (left right : Value) : Except Mismatch Bool :=
  if comparable left right then .ok (left.equal right) else .error (blame left right)

/-- The value of an operator on its operands. -/
def apply : BinaryOp → Value → Value → Except Mismatch Value
  | .add => sum
  | .subtract => onNumbers fun x y => .number (x - y)
  | .multiply => onNumbers fun x y => .number (x * y)
  | .divide => onNumbers fun x y => .number (x / y)
  | .greater => onNumbers fun x y => .bool (x > y)
  | .greaterEqual => onNumbers fun x y => .bool (x ≥ y)
  | .less => onNumbers fun x y => .bool (x < y)
  | .lessEqual => onNumbers fun x y => .bool (x ≤ y)
  | .equal => fun left right => .bool <$> equality left right
  | .notEqual => fun left right => (fun same => .bool !same) <$> equality left right

end BinaryOp

end Reckon
