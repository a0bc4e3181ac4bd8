/-!
# Similarity

How much two texts are alike, as a number from 0 to 1. Each character of the first text is paired
with an equal one of the second that stands not too far off, and the more characters have a
partner, and the more partners stand in the same order, the greater the similarity.
-/

namespace Reckon.Text

/-- How far apart partners may stand. -/
def reach (a b : List Char) : Nat :=
  max a.length b.length / 2 - 1

/-- The partner of the character `c` at place `i`: the first place of the second text that is
within reach, holds the same character and is not yet taken. -/
def partner? (reach : Nat) (b : List Char) (taken : List Nat) (c : Char) (i : Nat) : Option Nat :=
  (List.range b.length).find? fun j =>
    i ≤ j + reach && j ≤ i + reach && b[j]? == some c && !taken.contains j

/-- The places of the partners, in the order of the characters of the first text, which start at
place `i`. -/
def partnersFrom (reach : Nat) (b : List Char) (taken : List Nat) (i : Nat) :
    List Char → List Nat
  | [] => taken
  | c :: rest =>
    match partner? reach b taken c i with
    | some j => partnersFrom reach b (taken ++ [j]) (i + 1) rest
    | none => partnersFrom reach b taken (i + 1) rest

/-- The places in the second text of the partners of the first. -/
def partners (a b : List Char) : List Nat :=
  partnersFrom (reach a b) b [] 0 a

/-- How many characters with a partner differ from the one that has the same rank among the
partners. -/
def displaced (b : List Char) (partners : List Nat) : Nat :=
  let inOrder := (List.range b.length).filter partners.contains
  (partners.zip inOrder).countP fun (i, j) => b[i]? != b[j]?

/-- The similarity of two texts: the mean of the shares of each that have a partner, and of the
share of the partners that are in order. Two displaced characters count as one. -/
def similarity (a b : List Char) : Float :=
  let partners := partners a b
  let count := partners.length
  if a.isEmpty && b.isEmpty then 1
  else if count = 0 then 0
  else
    (count.toFloat / a.length.toFloat + count.toFloat / b.length.toFloat +
      (count - displaced b partners / 2).toFloat / count.toFloat) / 3

end Reckon.Text
