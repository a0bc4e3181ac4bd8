/-!
# Double precision magnitudes

The magnitude of a double precision number is a code, the lower 63 bits of its pattern. Codes are
ordered as the magnitudes are: the code above the greatest finite one stands for infinity, and the
codes above that for no number.

* `significand` and `exponent` decode a code: it stands for `significand * 2 ^ exponent`.
* `nearest` goes the other way and finds the code nearest to a fraction. A fraction half way
  between two codes goes to the even one, and a fraction too large for any goes to infinity.

All of it is exact arithmetic on natural numbers and integers.
-/

namespace Reckon.Number

/-! ## From codes to magnitudes -/

/-- The weight of the lowest exponent bit in a code: below it stand the 52 fraction bits. -/
def exponentUnit : Nat := Nat.pow 2 52

/-- The code of infinity. -/
def infinityCode : Nat := 2047 * exponentUnit

/-- The code of the sign: a pattern from here on is of a negative number. -/
def signUnit : Nat := Nat.pow 2 63

/-- The integer that a code scales. Codes without exponent bits have no leading one. -/
def significand (code : Nat) : Nat :=
  if code < exponentUnit then code else exponentUnit + code % exponentUnit

/-- The power of two by which a code scales its significand. -/
def exponent (code : Nat) : Int :=
  (max (code / exponentUnit) 1 : Nat) - 1075

/-! ## Fractions -/

/-- A fraction of natural numbers. -/
structure Fraction where
  num : Nat
  den : Nat

namespace Fraction

/-- The fraction `n * base ^ power`. -/
def scaled (n base : Nat) : Int → Fraction
  | .ofNat power => ⟨n * base.pow power, 1⟩
  | .negSucc power => ⟨n, base.pow (power + 1)⟩

/-- The fraction divided by `base ^ power`. -/
def unscaled (v : Fraction) (base : Nat) : Int → Fraction
  | .ofNat power => ⟨v.num, v.den * base.pow power⟩
  | .negSucc power => ⟨v.num * base.pow (power + 1), v.den⟩

/-- The greatest integer not above a fraction. -/
def floor (v : Fraction) : Nat :=
  v.num / v.den

/-- Whether a fraction lies at or beyond the middle between its floor and the next integer. -/
def isUpperHalf (v : Fraction) : Bool :=
  v.den ≤ 2 * (v.num % v.den)

/-- The integer nearest to a fraction; of two equally near the even one. -/
def round (v : Fraction) : Nat :=
  let low := v.floor
  let twice := 2 * (v.num % v.den)
  if twice < v.den then low
  else if v.den < twice then low + 1
  else low + low % 2

/-- The exponent of the greatest power of two that is not above a positive fraction. The lengths of
numerator and denominator leave two candidates. -/
def log2 (v : Fraction) : Int :=
  let guess : Int := v.num.log2 - v.den.log2
  let scaled := v.unscaled 2 guess
  if scaled.den ≤ scaled.num then guess else guess - 1

end Fraction

/-! ## From fractions to codes -/

/-- The magnitude that a code below infinity stands for. -/
def magnitude (code : Nat) : Fraction :=
  .scaled (significand code) 2 (exponent code)

/-- The code nearest to a fraction. The significand takes 53 bits, unless that would need an
exponent below the least; rounding up to the next power of two carries into the exponent bits. -/
def nearest (v : Fraction) : Nat :=
  if v.num = 0 then 0
  else
    let power := max (v.log2 - 52) (-1074)
    min ((power + 1074).toNat * exponentUnit + (v.unscaled 2 power).round) infinityCode

end Reckon.Number
