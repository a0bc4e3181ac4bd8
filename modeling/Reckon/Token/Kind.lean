import Reckon.Token.Keyword

/-!
# Kinds of token

Symbols, the three kinds of token that carry a text of their own, keywords, and the end of the
input.
-/

namespace Reckon.Token

/-- What a token is. -/
inductive Kind where
  | leftParen
  | rightParen
  | leftBrace
  | rightBrace
  | comma
  | dot
  | minus
  | plus
  | semicolon
  | slash
  | star
  | bang
  | bangEqual
  | equal
  | equalEqual
  | greater
  | greaterEqual
  | less
  | lessEqual
  | identifier
  | string
  | number
  | keyword (word : Keyword)
  | endOfInput
  deriving DecidableEq, Repr

namespace Kind

/-- The symbols with their spellings. A symbol of two characters stands before the one that it
extends, so the first that fits is the longest. -/
def symbols : List (List Char × Kind) :=
  [(['!', '='], .bangEqual), (['=', '='], .equalEqual), (['>', '='], .greaterEqual),
    (['<', '='], .lessEqual), (['('], .leftParen), ([')'], .rightParen), (['\x7b'], .leftBrace),
    (['\x7d'], .rightBrace), ([','], .comma), (['.'], .dot), (['-'], .minus), (['+'], .plus),
    ([';'], .semicolon), (['/'], .slash), (['*'], .star), (['!'], .bang), (['='], .equal),
    (['>'], .greater), (['<'], .less)]

/-- Every kind of token. -/
def all : List Kind :=
  symbols.map Prod.snd ++ [.identifier, .string, .number] ++ Keyword.all.map .keyword ++
    [.endOfInput]

/-- The name of a kind of token. -/
def name : Kind → String
  | .leftParen => "LeftParen"
  | .rightParen => "RightParen"
  | .leftBrace => "LeftBrace"
  | .rightBrace => "RightBrace"
  | .comma => "Comma"
  | .dot => "Dot"
  | .minus => "Minus"
  | .plus => "Plus"
  | .semicolon => "Semicolon"
  | .slash => "Slash"
  | .star => "Star"
  | .bang => "Bang"
  | .bangEqual => "BangEqual"
  | .equal => "Equal"
  | .equalEqual => "EqualEqual"
  | .greater => "Greater"
  | .greaterEqual => "GreaterEqual"
  | .less => "Less"
  | .lessEqual => "LessEqual"
  | .identifier => "Identifier"
  | .string => "String"
  | .number => "Number"
  | .keyword word => word.name
  | .endOfInput => "EOF"

/-- The kind with a name. -/
def ofName? (name : String) : Option Kind :=
  all.find? (·.name == name)

/-- Whether a token of this kind is the first of a statement. -/
def startsStatement : Kind → Bool
  | .keyword word => word.startsStatement
  | _ => false

/-- A kind is found by its name. -/
theorem ofName?_name (kind : Kind) : ofName? kind.name = some kind := by
  cases kind with
  | keyword word => cases word <;> decide
  | _ => decide

end Kind

end Reckon.Token
