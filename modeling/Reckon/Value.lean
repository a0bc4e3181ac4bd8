import Reckon.Number.Layout

/-!
# Values

What an expression evaluates to: a number, a string, a truth value, or nothing at all. Numbers are
double precision, so that two numbers may be told apart by their signs and still be equal, and one
that is not a number is unequal to itself.
-/

namespace Reckon

/-- The four kinds of value. -/
inductive Value.Kind where
  | number
  | string
  | bool
  | nil
  deriving DecidableEq, Repr

/-- The name of a kind in messages. -/
def Value.Kind.name : Value.Kind → String
  | .number => "number"
  | .string => "string"
  | .bool => "bool"
  | .nil => "nil"

/-- A value of an expression. -/
inductive Value where
  | number (x : Float)
  | string (s : String)
  | bool (b : Bool)
  | nil
  deriving DecidableEq, Repr

namespace Value

/-- The kind of a value. -/
def kind : Value → Kind
  | .number _ => .number
  | .string _ => .string
  | .bool _ => .bool
  | .nil => .nil

/-- The number that a value is. -/
def number? : Value → Option Float
  | .number x => some x
  | _ => none

/-- The string that a value is. -/
def string? : Value → Option String
  | .string s => some s
  | _ => none

/-- The truth value that a value is. -/
def bool? : Value → Option Bool
  | .bool b => some b
  | _ => none

/-- Whether two values are equal. Values of different kinds never are. -/
def equal : Value → Value → Bool
  | .number x, .number y => x == y
  | .string s, .string t => s == t
  | .bool a, .bool b => a == b
  | .nil, .nil => true
  | _, _ => false

/-- The text of a value. A string is written as it is, without quotes. -/
def text : Value → String
  | .number x => String.ofList (Number.text x)
  | .string s => s
  | .bool true => "true"
  | .bool false => "false"
  | .nil => "nil"

end Value

end Reckon
