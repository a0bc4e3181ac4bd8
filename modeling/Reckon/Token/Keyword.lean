/-!
# Keywords

The reserved words. A word of a source is a keyword exactly if it is spelled like one, so upper
case words never are.
-/

namespace Reckon

/-- A reserved word. -/
inductive Keyword where
  | andWord
  | classWord
  | elseWord
  | falseWord
  | funWord
  | forWord
  | ifWord
  | nilWord
  | orWord
  | printWord
  | returnWord
  | superWord
  | thisWord
  | trueWord
  | varWord
  | whileWord
  deriving DecidableEq, Repr

namespace Keyword

/-- All reserved words. -/
def all : List Keyword :=
  [.andWord, .classWord, .elseWord, .falseWord, .funWord, .forWord, .ifWord, .nilWord, .orWord,
    .printWord, .returnWord, .superWord, .thisWord, .trueWord, .varWord, .whileWord]

/-- How a reserved word is spelled. -/
def spelling : Keyword → String
  | .andWord => "and"
  | .classWord => "class"
  | .elseWord => "else"
  | .falseWord => "false"
  | .funWord => "fun"
  | .forWord => "for"
  | .ifWord => "if"
  | .nilWord => "nil"
  | .orWord => "or"
  | .printWord => "print"
  | .returnWord => "return"
  | .superWord => "super"
  | .thisWord => "this"
  | .trueWord => "true"
  | .varWord => "var"
  | .whileWord => "while"

/-- The name of a reserved word as a kind of token. -/
def name : Keyword → String
  | .andWord => "And"
  | .classWord => "Class"
  | .elseWord => "Else"
  | .falseWord => "False"
  | .funWord => "Fun"
  | .forWord => "For"
  | .ifWord => "If"
  | .nilWord => "Nil"
  | .orWord => "Or"
  | .printWord => "Print"
  | .returnWord => "Return"
  | .superWord => "Super"
  | .thisWord => "This"
  | .trueWord => "True"
  | .varWord => "Var"
  | .whileWord => "While"

/-- The reserved word with a spelling. -/
def ofSpelling? (word : String) : Option Keyword :=
  all.find? (·.spelling == word)

/-- Whether a reserved word is the first of a statement. -/
def startsStatement : Keyword → Bool
  | .classWord | .funWord | .varWord | .forWord | .ifWord | .whileWord | .printWord | .returnWord =>
    true
  | _ => false

/-- A reserved word is found by its spelling. -/
theorem ofSpelling?_spelling (w : Keyword) : ofSpelling? w.spelling = some w := by
  cases w <;> decide

end Keyword

end Reckon
