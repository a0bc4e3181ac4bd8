import Reckon.Text.Digits
import Reckon.Text.Letters
import Reckon.Token.Kind

/-!
# Segments

A source is cut into consecutive pieces that together are all of it: symbols, strings, numbers,
words, single blanks, comments, single characters that start none of these, and at the very end
possibly a string or comment that is never closed. Each piece is as long as its form allows.

* `Segment.take` cuts the first piece off a source that is not empty, and `Segment.take_append`
  says that nothing is lost. So what is left is shorter, and cutting comes to an end.
* `segments` cuts up a whole source. The pieces are collected from the front, so that long sources
  need no deep recursion.
-/

namespace Reckon

/-- What a piece of source is. -/
inductive Segment.Form where
  | symbol (kind : Token.Kind)
  | string
  | number
  | word
  | blank
  | lineComment
  | blockComment
  | stray
  | openString
  | openComment
  deriving DecidableEq, Repr

/-- A piece of source. -/
structure Segment where
  form : Segment.Form
  text : List Char
  deriving DecidableEq, Repr

namespace Segment

/-! ## Character classes -/

/-- Whether a character separates tokens and means nothing else. -/
def isSeparator (c : Char) : Bool :=
  c == ' ' || c == '\r' || c == '\t' || c == '\n'

/-- Whether a word may start with a character. -/
def startsWord (c : Char) : Bool :=
  Text.isLetter c || c == '_'

/-- Whether a word may go on with a character. -/
def continuesWord (c : Char) : Bool :=
  Text.isLetter c || Text.isWordDigit c || c == '_'

/-! ## One piece -/

/-- A string, after its opening quote. Without a second quote it is open and takes all. -/
def takeString (rest : List Char) : Segment × List Char :=
  match rest.dropWhile (· != '"') with
  | [] => (⟨.openString, '"' :: rest⟩, [])
  | _ :: after => (⟨.string, '"' :: (rest.takeWhile (· != '"') ++ ['"'])⟩, after)

/-- A number, from its first digit. A point belongs to it only if a digit follows the point. -/
def takeNumber (source : List Char) : Segment × List Char :=
  let whole := source.takeWhile Char.isDigit
  let after := source.dropWhile Char.isDigit
  let fraction := (after.drop 1).takeWhile Char.isDigit
  if after.head? = some '.' ∧ fraction ≠ [] then
    (⟨.number, whole ++ '.' :: fraction⟩, (after.drop 1).dropWhile Char.isDigit)
  else (⟨.number, whole⟩, after)

/-- A comment that ends before the next line feed, from its first character. -/
def takeLineComment (source : List Char) : Segment × List Char :=
  (⟨.lineComment, source.takeWhile (· != '\n')⟩, source.dropWhile (· != '\n'))

/-- Splits a text after the first `*/` in it. What stands before it is collected in reverse. -/
def splitAtClose (before : List Char) : List Char → Option (List Char × List Char)
  | [] => none
  | c :: rest =>
    if c = '*' ∧ rest.head? = some '/' then some (('/' :: '*' :: before).reverse, rest.tail)
    else splitAtClose (c :: before) rest

/-- A comment between `/*` and `*/`, after its opening. Such comments do not nest. Without an end
it is open and takes all. -/
def takeBlockComment (rest : List Char) : Segment × List Char :=
  match splitAtClose [] rest with
  | some (body, after) => (⟨.blockComment, '/' :: '*' :: body⟩, after)
  | none => (⟨.openComment, '/' :: '*' :: rest⟩, [])

/-- The longest symbol at the start of a source. -/
def symbol? (source : List Char) : Option (List Char × Token.Kind) :=
  Token.Kind.symbols.find? (·.1.isPrefixOf source)

/-- Cuts the first piece off a source, given as its first character and the rest. -/
def take (c : Char) (rest : List Char) : Segment × List Char :=
  if c = '"' then takeString rest
  else if c = '/' ∧ rest.head? = some '/' then takeLineComment (c :: rest)
  else if c = '/' ∧ rest.head? = some '*' then takeBlockComment rest.tail
  else if isSeparator c then (⟨.blank, [c]⟩, rest)
  else if c.isDigit then takeNumber (c :: rest)
  else if startsWord c then
    (⟨.word, c :: rest.takeWhile continuesWord⟩, rest.dropWhile continuesWord)
  else
    match symbol? (c :: rest) with
    | some (text, kind) => (⟨.symbol kind, text⟩, (c :: rest).drop text.length)
    | none => (⟨.stray, [c]⟩, rest)

/-! ## Nothing is lost -/

theorem takeString_append (rest : List Char) :
    (takeString rest).1.text ++ (takeString rest).2 = '"' :: rest := by
  have hwhole := List.takeWhile_append_dropWhile (p := (· != '"')) (l := rest)
  unfold takeString
  split
  · exact List.append_nil _
  · rename_i quote after hdrop
    have hquote : quote = '"' := by
      have hnot := List.head?_dropWhile_not (p := (· != '"')) (l := rest)
      simpa [hdrop] using hnot
    rw [hdrop, hquote] at hwhole
    simpa using hwhole

theorem takeNumber_append (source : List Char) :
    (takeNumber source).1.text ++ (takeNumber source).2 = source := by
  have hwhole := List.takeWhile_append_dropWhile (p := Char.isDigit) (l := source)
  simp only [takeNumber]
  split
  · rename_i hpoint
    obtain ⟨tail, htail⟩ := List.head?_eq_some_iff.mp hpoint.1
    have hfraction := List.takeWhile_append_dropWhile (p := Char.isDigit) (l := tail)
    rw [htail] at hwhole
    simp [htail, hfraction, hwhole]
  · exact hwhole

theorem splitAtClose_append {before text body after : List Char}
    (h : splitAtClose before text = some (body, after)) :
    body ++ after = before.reverse ++ text := by
  induction text generalizing before with
  | nil => simp [splitAtClose] at h
  | cons c rest ih =>
      rw [splitAtClose] at h
      split at h
      · rename_i hclose
        obtain ⟨tail, rfl⟩ := List.head?_eq_some_iff.mp hclose.2
        obtain ⟨rfl, rfl⟩ : ('/' :: '*' :: before).reverse = body ∧ tail = after := by simpa using h
        simp [hclose.1]
      · simpa using ih h

theorem takeBlockComment_append (rest : List Char) :
    (takeBlockComment rest).1.text ++ (takeBlockComment rest).2 = '/' :: '*' :: rest := by
  unfold takeBlockComment
  split
  · rename_i body after hsplit
    simpa using splitAtClose_append hsplit
  · simp

/-- The first piece and what is left are the source. -/
theorem take_append (c : Char) (rest : List Char) :
    (take c rest).1.text ++ (take c rest).2 = c :: rest := by
  unfold take
  split
  · rename_i hquote
    rw [takeString_append, hquote]
  split
  · exact List.takeWhile_append_dropWhile
  split
  · rename_i hblock
    obtain ⟨tail, rfl⟩ := List.head?_eq_some_iff.mp hblock.2
    rw [List.tail_cons, takeBlockComment_append, hblock.1]
  split
  · rfl
  split
  · exact takeNumber_append (c :: rest)
  split
  · simp
  split
  · rename_i text kind hfind
    have hprefix : text <+: c :: rest := by simpa using List.find?_some hfind
    exact (List.prefix_iff_eq_append.mp hprefix).symm ▸ rfl
  · rfl

/-- A piece is never empty. -/
theorem take_text_ne_nil (c : Char) (rest : List Char) : (take c rest).1.text ≠ [] := by
  unfold take
  split
  · unfold takeString
    split <;> simp
  split
  · rename_i hline
    simp [takeLineComment, hline.1]
  split
  · unfold takeBlockComment
    split <;> simp
  split
  · simp
  split
  · rename_i hdigit
    simp only [takeNumber]
    split <;> simp [hdigit]
  split
  · simp
  split
  · rename_i text kind hfind
    have hall : ∀ symbol ∈ Token.Kind.symbols, symbol.1 ≠ [] := by decide
    exact hall _ (List.mem_of_find?_eq_some hfind)
  · simp

/-- Cutting off a piece leaves less than there was. -/
theorem length_take_lt (c : Char) (rest : List Char) :
    (take c rest).2.length < (c :: rest).length := by
  have hwhole := congrArg List.length (take_append c rest)
  have hpiece := List.length_pos_iff.mpr (take_text_ne_nil c rest)
  rw [List.length_append] at hwhole
  omega

end Segment

/-! ## All pieces -/

/-- The pieces of a source behind those already found, which are given in reverse. -/
def segmentsInto (found : List Segment) : List Char → List Segment
  | [] => found.reverse
  | c :: rest => segmentsInto ((Segment.take c rest).1 :: found) (Segment.take c rest).2
termination_by source => source.length
decreasing_by exact Segment.length_take_lt c rest

/-- The pieces of a source. -/
def segments (source : List Char) : List Segment :=
  segmentsInto [] source

end Reckon
