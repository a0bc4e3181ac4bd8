import Reckon.Diagnostic
import Reckon.Expr
import Reckon.Parser.Stream

/-!
# Grammar rules

Expressions by precedence, loosest first. Every binary level folds to the left:

```text
expression  := equality
equality    := comparison (("==" | "!=") comparison)*
comparison  := term ((">" | ">=" | "<" | "<=") term)*
term        := factor (("-" | "+") factor)*
factor      := unary (("/" | "*") unary)*
unary       := ("-" | "!") unary | primary
primary     := "true" | "false" | "nil" | NUMBER | STRING | "(" expression ")"
```

The rules are recursive in two places only, behind a prefix operator and behind an opening
parenthesis, and each of these opens a level. Reading is therefore by recursion on the *room*, the
number of levels that may still be opened: `deeper room` is the rule `unary` one level further
down, and there is none without room. The tree that a rule builds is limited to the same depth,
which bounds the chains of binary operators too.

A rule that fails says where it stopped, and how many of the levels it opened were still open.
-/

namespace Reckon

/-- The greatest depth of an expression that is read, and of levels open at once. -/
def maxDepth : Nat := 100

/-- How reading failed: what is wrong, the tokens not yet read, and the number of levels opened and
not closed. -/
structure Stop where
  diagnostic : Diagnostic
  rest : Stream
  leftOpen : Nat

/-- A reader of expressions: it yields an expression and the tokens behind it. -/
abbrev Reader := Stream → Except Stop (Expr × Stream)

/-- The diagnostic of a token with which the depth limit is passed. -/
def Token.tooDeep (t : Token) : Diagnostic :=
  ⟨.tooDeeplyNested maxDepth, t.line⟩

namespace Rules

/-! ## Levels -/

/-- A node built at a token, if it is not too deep. -/
def node (t : Token) (e : Expr) : Reader := fun rest =>
  if maxDepth < e.depth then .error ⟨t.tooDeep, rest, 0⟩ else .ok (e, rest)

/-- Opens a level and reads there what `rule` makes of the rule for prefix operators. A failure
inside leaves the level open. -/
def nested (deeper : Option Reader) (rule : Reader → Reader) : Reader := fun s =>
  match deeper with
  | none => .error ⟨s.current.tooDeep, s, 0⟩
  | some unary =>
    match rule unary s with
    | .ok result => .ok result
    | .error stop => .error { stop with leftOpen := stop.leftOpen + 1 }

/-! ## Binary operators -/

/-- The levels of binary operators, loosest first. -/
inductive Level where
  | equality
  | comparison
  | term
  | factor
  deriving DecidableEq, Repr

/-- The kinds of token that are operators of a level. -/
def Level.operators : Level → List Token.Kind
  | .equality => [.equalEqual, .bangEqual]
  | .comparison => [.greater, .greaterEqual, .less, .lessEqual]
  | .term => [.minus, .plus]
  | .factor => [.slash, .star]

/-- Reads operators of a level and their right operands behind a left operand, for as long as there
are any. Each makes the tree deeper, so there are no more than the depth limit. -/
def chain (level : Level) (operand : Reader) (left : Expr) (s : Stream) :
    Except Stop (Expr × Stream) :=
  match s.accept? level.operators with
  | none => .ok (left, s)
  | some (operator, behind) =>
    match operand behind with
    | .error stop => .error stop
    | .ok (right, rest) =>
      if maxDepth < (Expr.binary left operator right).depth then
        .error ⟨operator.tooDeep, rest, 0⟩
      else chain level operand (.binary left operator right) rest
termination_by maxDepth - left.depth
decreasing_by simp only [Expr.depth] at *; omega

/-- One level of binary operators over the next tighter one. -/
def binary (level : Level) (operand : Reader) : Reader := fun s =>
  match operand s with
  | .error stop => .error stop
  | .ok (left, rest) => chain level operand left rest

/-- Products, over the rule for prefix operators. -/
def factor (unary : Reader) : Reader := binary .factor unary

/-- Sums, over the rule for prefix operators. -/
def term (unary : Reader) : Reader := binary .term (factor unary)

/-- Comparisons, over the rule for prefix operators. -/
def comparison (unary : Reader) : Reader := binary .comparison (term unary)

/-- Expressions, over the rule for prefix operators. -/
def equality (unary : Reader) : Reader := binary .equality (comparison unary)

/-! ## Operands -/

/-- An expression in parentheses. The current token is taken for the opening one. -/
def grouping (deeper : Option Reader) : Reader := fun s =>
  let (opening, behind) := s.advance
  match nested deeper equality behind with
  | .error stop => .error stop
  | .ok (inner, rest) =>
    match rest.accept? [.rightParen] with
    | none =>
      .error ⟨⟨.unterminatedGrouping rest.current.describe, rest.current.line⟩, rest, 0⟩
    | some (_, rest) => node opening (.grouping inner) rest

/-- The literal that a token carries. -/
def carried : Reader := fun s =>
  let (t, rest) := s.advance
  match t.literal with
  | some value => .ok (.literal value, rest)
  | none => .error ⟨⟨.expectedExpression t.lexeme, t.line⟩, rest, 0⟩

/-- A literal or an expression in parentheses. -/
def primary (deeper : Option Reader) : Reader := fun s =>
  match s.current.kind with
  | .keyword .trueWord => .ok (.literal (.bool true), s.advance.2)
  | .keyword .falseWord => .ok (.literal (.bool false), s.advance.2)
  | .keyword .nilWord => .ok (.literal .nil, s.advance.2)
  | .number | .string => carried s
  | .leftParen => grouping deeper s
  | _ => .error ⟨⟨.expectedExpression s.current.describe, s.current.line⟩, s, 0⟩

/-- An operand behind any number of prefix operators. -/
def unary (deeper : Option Reader) : Reader := fun s =>
  match s.accept? [.minus, .bang] with
  | none => primary deeper s
  | some (operator, behind) =>
    match nested deeper id behind with
    | .error stop => .error stop
    | .ok (operand, rest) => node operator (.unary operator operand) rest

/-- The rule for prefix operators one level further down, if there is room for a level. -/
def deeper : Nat → Option Reader
  | 0 => none
  | room + 1 => some (unary (deeper room))

end Rules

/-- The rules of the grammar. -/
inductive Rule where
  | expression
  | equality
  | comparison
  | term
  | factor
  | unary
  | primary
  | grouping
  deriving DecidableEq, Repr

/-- Reads by a rule with room for a number of levels. -/
def Rule.read (rule : Rule) (room : Nat) : Reader :=
  let deeper := Rules.deeper room
  match rule with
  | .expression | .equality => Rules.equality (Rules.unary deeper)
  | .comparison => Rules.comparison (Rules.unary deeper)
  | .term => Rules.term (Rules.unary deeper)
  | .factor => Rules.factor (Rules.unary deeper)
  | .unary => Rules.unary deeper
  | .primary => Rules.primary deeper
  | .grouping => Rules.grouping deeper

end Reckon
