import Reckon.Text.Hidden

/-!
# Quoted text

A text between double quotes in which every character can be seen. The quote and the backslash
are preceded by a backslash, the line feed, the carriage return, the tab and the null character
have a letter each, and any other hidden character is written as its code point in hexadecimal.
All else stands for itself, the single quote included.
-/

namespace Reckon.Text

/-- A character by its code point: lower case hexadecimal without leading zeros, in braces. -/
def escapedCode (c : Char) : List Char :=
  ['\\', 'u', '\x7b'] ++ Nat.toDigits 16 c.toNat ++ ['\x7d']

/-- How a character is written inside quotes. -/
def escaped : Char → List Char
  | '"' => ['\\', '"']
  | '\\' => ['\\', '\\']
  | '\n' => ['\\', 'n']
  | '\r' => ['\\', 'r']
  | '\t' => ['\\', 't']
  | '\x00' => ['\\', '0']
  | c => if isHidden c then escapedCode c else [c]

/-- A text in quotes. -/
def quoted (text : List Char) : List Char :=
  '"' :: (text.flatMap escaped ++ ['"'])

end Reckon.Text
