import Reckon.Token.Kind
import Reckon.Value

/-!
# Tokens

The units that expressions are read from. A token keeps the text it was written with and the line
on which that text ends. Nothing ties the parts of a token together: a kind may come with any
text, and a literal with any kind.
-/

namespace Reckon

/-- A token. -/
structure Token where
  kind : Token.Kind
  lexeme : String
  literal : Option Value
  line : Nat
  deriving DecidableEq, Repr

namespace Token

/-- The token that ends a list of tokens. -/
def endAt (line : Nat) : Token :=
  ⟨.endOfInput, "", none, line⟩

/-- Whether a token is the end of the input. -/
def isEnd (t : Token) : Bool :=
  t.kind == .endOfInput

/-- How messages name a token. The end of the input has no text of its own. -/
def describe (t : Token) : String :=
  if t.isEnd then "EOF" else t.lexeme

/-- A token on one line: its kind in capitals, its text if it has one, and its literal. -/
def text (t : Token) : String :=
  let kind := t.kind.name.toUpper
  match t.literal with
  | some value => kind ++ " " ++ t.lexeme ++ " " ++ value.text
  | none => if t.lexeme.isEmpty then kind else kind ++ " " ++ t.lexeme

end Token

end Reckon
