/-!
# Lines

A text is divided into lines at each line feed and at nothing else, so that a text with `n` line
feeds has exactly `n + 1` lines, the last of which may be empty. Lines are numbered from one.
-/

namespace Reckon.Text

/-- The lines of a text, without their line feeds. -/
def lines (text : List Char) : List (List Char) :=
  text.splitOn '\n'

/-- The line with a number, counted from one, among the lines of a text. No line has number zero. -/
def numbered? (all : List (List Char)) : Nat → Option (List Char)
  | 0 => none
  | n + 1 => all[n]?

/-- The line of a text with a number, counted from one. -/
def line? (text : List Char) (number : Nat) : Option (List Char) :=
  numbered? (lines text) number

/-- How many line feeds a text holds. -/
def lineFeeds (text : List Char) : Nat :=
  text.count '\n'

end Reckon.Text
