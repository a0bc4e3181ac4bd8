import Reckon.Number.Shortest

/-!
# Numbers as text

A number is written with its shortest digits. Zero and the magnitudes from `0.0001` up to but
without `1e16` are written with a decimal point and at least one digit on either side of it; all
others with one digit before the point and a power of ten after the mark `e`, without a point if
no digit follows it. Zero keeps its sign, and no number is written `NaN`, whatever its sign.
-/

namespace Reckon.Number

/-! ## Decimals -/

namespace Decimal

/-- A decimal with a point, and at least one digit on either side of it. -/
def plainText (d : Decimal) : List Char :=
  match d.exponent with
  | .ofNat power => Nat.toDigits 10 (d.digits * Nat.pow 10 power) ++ ['.', '0']
  | .negSucc power =>
    let unit := Nat.pow 10 (power + 1)
    Nat.toDigits 10 (d.digits / unit) ++ '.' ::
      List.leftpad (power + 1) '0' (Nat.toDigits 10 (d.digits % unit))

/-- An integer, with a minus sign if it is negative. -/
def integerText : Int → List Char
  | .ofNat n => Nat.toDigits 10 n
  | .negSucc n => '-' :: Nat.toDigits 10 (n + 1)

/-- A decimal with one digit before the point and a power of ten. -/
def scientificText (d : Decimal) : List Char :=
  match d.numeral with
  | [] => []
  | first :: rest =>
    let point := if rest.isEmpty then [] else '.' :: rest
    first :: point ++ 'e' :: integerText (d.exponent + rest.length)

end Decimal

/-! ## Double precision numbers -/

/-- Whether a number is negative, or a zero with a minus sign. -/
def isSigned (x : Float) : Bool :=
  signUnit ≤ x.toBits.toNat

/-- The code of the magnitude of a number. -/
def codeOf (x : Float) : Nat :=
  x.toBits.toNat % signUnit

/-- Whether a number is written with a decimal point and without a power of ten. -/
def isPlain (x : Float) : Bool :=
  x == 0 || (0.0001 ≤ x.abs && x.abs < 1e16)

/-- The text of the magnitude of a number. -/
def magnitudeText (x : Float) : List Char :=
  if codeOf x = infinityCode then ['i', 'n', 'f']
  else if isPlain x then (shortest (codeOf x)).plainText
  else (shortest (codeOf x)).scientificText

/-- The text of a number. -/
def text (x : Float) : List Char :=
  if x.isNaN then ['N', 'a', 'N']
  else if isSigned x then '-' :: magnitudeText x
  else magnitudeText x

end Reckon.Number
