import Reckon.Number.Decimal

/-!
# The shortest decimal of a double precision number

The decimal with the fewest digits that reads back as a given magnitude; of several with that many
digits the nearest, and of two equally near the greater.

The decimals with one number of digits are the points of a grid. If any point of a grid reads back,
then one of the two points around the magnitude does, so only those two are tried on each grid, the
coarsest first. Whether a decimal reads back is asked of the reader of decimals itself, so that what
is printed can be read by construction. Seventeen digits suffice for double precision. The exact
decimal, which reads back whatever the precision, stands behind them and keeps the function total.
-/

namespace Reckon.Number

/-- The number of digits before the point of a positive fraction, or the negated number of zeros
right after the point: the least `n` such that the fraction is below `10 ^ n`. -/
def Fraction.log10 (v : Fraction) : Int :=
  if v.den ≤ v.num then (Nat.toDigits 10 v.floor).length
  else 1 - (Nat.toDigits 10 ((v.den - 1) / v.num)).length

/-- Whether a decimal reads back as the magnitude with a code. -/
def Decimal.readsAs (code : Nat) (d : Decimal) : Bool :=
  d.code == code

/-- Of the two decimals around `value` whose last digit has the weight `10 ^ unit`, the one that
reads back as `code`; if both do, the nearer. -/
def onGrid? (code : Nat) (value : Fraction) (unit : Int) : Option Decimal :=
  let steps := value.unscaled 10 unit
  let below := (Decimal.mk steps.floor unit).normalized
  let above := (Decimal.mk (steps.floor + 1) unit).normalized
  match below.readsAs code, above.readsAs code with
  | true, true => some (if steps.isUpperHalf then above else below)
  | true, false => some below
  | false, true => some above
  | false, false => none

/-- The decimal equal to the magnitude with a code. A negative power of two is a power of five over
a power of ten. -/
def exactDecimal (code : Nat) : Decimal :=
  match exponent code with
  | .ofNat power => ⟨significand code * Nat.pow 2 power, 0⟩
  | .negSucc power => ⟨significand code * Nat.pow 5 (power + 1), .negSucc power⟩

/-- The greatest number of digits that a double precision number needs. -/
def maxDigits : Nat := 17

/-- The shortest decimal that reads back as the magnitude with a code. -/
def shortest (code : Nat) : Decimal :=
  if code = 0 then ⟨0, 0⟩
  else
    let value := magnitude code
    let places := value.log10
    ((List.range maxDigits).findSome? fun n => onGrid? code value (places - (n + 1 : Nat))).getD
      (exactDecimal code)

end Reckon.Number
