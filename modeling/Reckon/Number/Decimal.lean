import Reckon.Number.Binary64

/-!
# Decimal numbers

A decimal is an integer scaled by a power of ten. It is read from the digits of a literal, and
stands for the double precision number nearest to it.
-/

namespace Reckon.Number

/-- The number `digits * 10 ^ exponent`. -/
structure Decimal where
  digits : Nat
  exponent : Int
  deriving DecidableEq, Repr

namespace Decimal

/-- The decimal written with the digits `whole` before the point and `fraction` after it. -/
def ofDigits (whole fraction : List Char) : Decimal :=
  ⟨Nat.ofDigitChars 10 (whole ++ fraction) 0, -(fraction.length : Int)⟩

/-- The code of the double precision magnitude nearest to a decimal. -/
def code (d : Decimal) : Nat :=
  nearest (.scaled d.digits 10 d.exponent)

/-- The double precision number nearest to a decimal. -/
def toFloat (d : Decimal) : Float :=
  .ofBits (.ofNat d.code)

/-- The same number without zeros at the end of its digits. -/
def normalized (d : Decimal) : Decimal :=
  if h : d.digits ≠ 0 ∧ d.digits % 10 = 0 then normalized ⟨d.digits / 10, d.exponent + 1⟩ else d
termination_by d.digits
decreasing_by exact Nat.div_lt_self (Nat.pos_of_ne_zero h.1) (by decide)

/-- The digits of a decimal as characters. -/
def numeral (d : Decimal) : List Char :=
  Nat.toDigits 10 d.digits

end Decimal

end Reckon.Number
