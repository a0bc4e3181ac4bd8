import Mathlib.Algebra.Order.Field.Power
import Mathlib.Algebra.Order.Floor.Semifield
import Mathlib.Data.Int.Log
import Mathlib.Data.Rat.Floor
import Mathlib.Tactic.FieldSimp
import Mathlib.Tactic.Linarith
import Mathlib.Tactic.Positivity
import Mathlib.Tactic.Ring
import Reckon.Number.Shortest

/-!
# Rounding to codes and back

The code nearest to a fraction is a matter of the value of the fraction alone, and the code nearest
to what a code stands for is the code itself.

**Values.**  `Fraction.value` is a fraction as a rational number.  Scaling is multiplication by a
power, and each step of rounding is a function of the value: the floor, the nearest integer, the
greatest power of two below.

**Codes.**  A natural number times a power of two is not rounded if the power is the one that
rounding chooses (`nearestCode_mul`).  What the codes below that of infinity stand for are such
numbers (`nearestCode_magnitude`).

**Decimals.**  A decimal reads back as a code if its value is what the code stands for, or because
that has been tried.  The shortest decimal of a code is found in one of these ways
(`code_shortest`).
-/

namespace Reckon.Number

/-! ## Powers of two -/

lemma log_eq {q : ℚ} {power : ℤ} (hq : 0 < q) (hle : (2 : ℚ) ^ power ≤ q)
    (hlt : q < (2 : ℚ) ^ (power + 1)) : Int.log 2 q = power := by
  have hlow := (Int.zpow_le_iff_le_log (b := 2) one_lt_two hq).mp (by exact_mod_cast hle)
  have hhigh := (Int.lt_zpow_iff_log_lt (b := 2) one_lt_two hq).mp (by exact_mod_cast hlt)
  omega

lemma two_zpow_log2_le {n : ℕ} (hn : n ≠ 0) : (2 : ℚ) ^ (n.log2 : ℤ) ≤ n := by
  rw [zpow_natCast]
  exact_mod_cast Nat.log2_self_le hn

lemma lt_two_zpow_log2 (n : ℕ) : (n : ℚ) < (2 : ℚ) ^ ((n.log2 : ℤ) + 1) := by
  have h : n < 2 ^ (n.log2 + 1) := Nat.lt_log2_self
  exact_mod_cast h

lemma log_mul_zpow {n : ℕ} (hn : n ≠ 0) (power : ℤ) :
    Int.log 2 ((n : ℚ) * (2 : ℚ) ^ power) = n.log2 + power := by
  have hpower : (0 : ℚ) < (2 : ℚ) ^ power := zpow_pos two_pos power
  refine log_eq (by positivity) ?_ ?_
  · rw [zpow_add₀ two_ne_zero]
    gcongr
    exact two_zpow_log2_le hn
  · rw [add_right_comm, zpow_add₀ two_ne_zero]
    gcongr
    exact lt_two_zpow_log2 n

/-! ## Values -/

namespace Fraction

/-- A fraction as a rational number. -/
def value (v : Fraction) : ℚ :=
  v.num / v.den

lemma value_scaled (n base : Nat) (power : Int) :
    (scaled n base power).value = n * (base : ℚ) ^ power := by
  cases power with
  | ofNat power => simp [scaled, value]
  | negSucc power => simp [scaled, value, zpow_negSucc, div_eq_mul_inv]

lemma den_scaled_pos (n : Nat) {base : Nat} (hbase : 0 < base) (power : Int) :
    0 < (scaled n base power).den := by
  cases power with
  | ofNat power => exact Nat.one_pos
  | negSucc power => exact Nat.pow_pos hbase

lemma value_unscaled (v : Fraction) (base : Nat) (power : Int) :
    (v.unscaled base power).value = v.value / (base : ℚ) ^ power := by
  cases power with
  | ofNat power => simp [unscaled, value, div_div]
  | negSucc power => simp [unscaled, value, zpow_negSucc, div_mul_eq_mul_div]

lemma den_unscaled_pos {v : Fraction} (hv : 0 < v.den) {base : Nat} (hbase : 0 < base)
    (power : Int) : 0 < (v.unscaled base power).den := by
  cases power with
  | ofNat power => exact Nat.mul_pos hv (Nat.pow_pos hbase)
  | negSucc power => exact hv

lemma value_eq_zero_iff {v : Fraction} (hv : 0 < v.den) : v.value = 0 ↔ v.num = 0 := by
  simp [value, hv.ne']

lemma value_pos {v : Fraction} (hv : 0 < v.den) (hn : v.num ≠ 0) : 0 < v.value :=
  div_pos (Nat.cast_pos.mpr (Nat.pos_of_ne_zero hn)) (Nat.cast_pos.mpr hv)

lemma floor_eq (v : Fraction) : v.floor = ⌊v.value⌋₊ :=
  (Nat.floor_div_eq_div v.num v.den).symm

/-- The remainder of a division, by how far the value is above its floor. -/
lemma mod_eq {v : Fraction} (hv : 0 < v.den) :
    ((v.num % v.den : Nat) : ℚ) = (v.value - v.floor) * v.den := by
  have hden : (v.den : ℚ) ≠ 0 := Nat.cast_ne_zero.mpr hv.ne'
  have hdiv : ((v.den * v.floor + v.num % v.den : Nat) : ℚ) = v.num :=
    congrArg Nat.cast (Nat.div_add_mod v.num v.den)
  push_cast at hdiv
  rw [value, sub_mul, div_mul_cancel₀ _ hden, ← hdiv]
  ring

/-- What rounding compares, by how far the value is above its floor. -/
lemma twice_mod_lt_iff {v : Fraction} (hv : 0 < v.den) :
    2 * (v.num % v.den) < v.den ↔ v.value - v.floor < 1 / 2 := by
  have hden : (0 : ℚ) < v.den := Nat.cast_pos.mpr hv
  rw [← Nat.cast_lt (α := ℚ), Nat.cast_mul, mod_eq hv, Nat.cast_ofNat, ← mul_assoc,
    mul_lt_iff_lt_one_left hden]
  constructor <;> intro h <;> linarith

lemma lt_twice_mod_iff {v : Fraction} (hv : 0 < v.den) :
    v.den < 2 * (v.num % v.den) ↔ 1 / 2 < v.value - v.floor := by
  have hden : (0 : ℚ) < v.den := Nat.cast_pos.mpr hv
  rw [← Nat.cast_lt (α := ℚ), Nat.cast_mul, mod_eq hv, Nat.cast_ofNat, ← mul_assoc,
    lt_mul_iff_one_lt_left hden]
  constructor <;> intro h <;> linarith

end Fraction

/-- The integer nearest to a rational number that is not negative; of two equally near the even
one. -/
def roundEven (q : ℚ) : ℕ :=
  if q - ⌊q⌋₊ < 1 / 2 then ⌊q⌋₊
  else if 1 / 2 < q - ⌊q⌋₊ then ⌊q⌋₊ + 1
  else ⌊q⌋₊ + ⌊q⌋₊ % 2

lemma roundEven_natCast (n : ℕ) : roundEven n = n := by
  simp [roundEven]

namespace Fraction

lemma round_eq {v : Fraction} (hv : 0 < v.den) : v.round = roundEven v.value := by
  simp only [round, roundEven, ← floor_eq, twice_mod_lt_iff hv, lt_twice_mod_iff hv]

lemma den_le_num_iff {v : Fraction} (hv : 0 < v.den) : v.den ≤ v.num ↔ 1 ≤ v.value := by
  rw [value, one_le_div (Nat.cast_pos.mpr hv), Nat.cast_le]

/-- The lengths of numerator and denominator leave two powers of two for a fraction. -/
lemma zpow_lt_value_lt_zpow {v : Fraction} (hv : 0 < v.den) (hn : v.num ≠ 0) :
    (2 : ℚ) ^ ((v.num.log2 : ℤ) - v.den.log2 - 1) < v.value ∧
      v.value < (2 : ℚ) ^ ((v.num.log2 : ℤ) - v.den.log2 + 1) := by
  have hden : (0 : ℚ) < v.den := Nat.cast_pos.mpr hv
  have hnum := two_zpow_log2_le hn
  have hnum' := lt_two_zpow_log2 v.num
  have hden' := two_zpow_log2_le hv.ne'
  have hden'' := lt_two_zpow_log2 v.den
  rw [value, lt_div_iff₀ hden, div_lt_iff₀ hden]
  constructor
  · calc (2 : ℚ) ^ ((v.num.log2 : ℤ) - v.den.log2 - 1) * v.den
        < (2 : ℚ) ^ ((v.num.log2 : ℤ) - v.den.log2 - 1) * (2 : ℚ) ^ ((v.den.log2 : ℤ) + 1) := by
          gcongr
      _ = (2 : ℚ) ^ (v.num.log2 : ℤ) := by
        rw [← zpow_add₀ two_ne_zero]
        congr 1
        ring
      _ ≤ v.num := hnum
  · calc (v.num : ℚ) < (2 : ℚ) ^ ((v.num.log2 : ℤ) + 1) := hnum'
      _ = (2 : ℚ) ^ ((v.num.log2 : ℤ) - v.den.log2 + 1) * (2 : ℚ) ^ (v.den.log2 : ℤ) := by
        rw [← zpow_add₀ two_ne_zero]
        congr 1
        ring
      _ ≤ (2 : ℚ) ^ ((v.num.log2 : ℤ) - v.den.log2 + 1) * v.den := by gcongr

lemma log2_eq {v : Fraction} (hv : 0 < v.den) (hn : v.num ≠ 0) :
    v.log2 = Int.log 2 v.value := by
  have hpos := value_pos hv hn
  obtain ⟨hlow, hhigh⟩ := zpow_lt_value_lt_zpow hv hn
  have hguess (guess : ℤ) : (v.unscaled 2 guess).den ≤ (v.unscaled 2 guess).num ↔
      (2 : ℚ) ^ guess ≤ v.value := by
    rw [den_le_num_iff (den_unscaled_pos hv two_pos guess), value_unscaled, Nat.cast_ofNat,
      one_le_div (zpow_pos two_pos guess)]
  simp only [log2, hguess]
  split
  · rename_i hle
    exact (log_eq hpos hle hhigh).symm
  · rename_i hnot
    refine (log_eq hpos hlow.le ?_).symm
    rw [sub_add_cancel]
    exact not_le.mp hnot

end Fraction

/-! ## Codes -/

/-- The code nearest to a rational number that is not negative. -/
def nearestCode (q : ℚ) : ℕ :=
  if q = 0 then 0
  else
    let power := max (Int.log 2 q - 52) (-1074)
    min ((power + 1074).toNat * exponentUnit + roundEven (q / (2 : ℚ) ^ power)) infinityCode

lemma nearest_eq {v : Fraction} (hv : 0 < v.den) : nearest v = nearestCode v.value := by
  unfold nearest nearestCode
  by_cases hn : v.num = 0
  · rw [if_pos hn, if_pos ((Fraction.value_eq_zero_iff hv).mpr hn)]
  · rw [if_neg hn, if_neg (mt (Fraction.value_eq_zero_iff hv).mp hn)]
    simp only [Fraction.log2_eq hv hn, Fraction.round_eq (Fraction.den_unscaled_pos hv two_pos _),
      Fraction.value_unscaled, Nat.cast_ofNat]

/-- A number times the power of two that rounding chooses is not rounded. -/
lemma nearestCode_mul {s : ℕ} {power : ℤ} (hs : 0 < s)
    (hpower : max (Int.log 2 (s * (2 : ℚ) ^ power) - 52) (-1074) = power) :
    nearestCode (s * (2 : ℚ) ^ power) =
      min ((power + 1074).toNat * exponentUnit + s) infinityCode := by
  have htwo : (2 : ℚ) ^ power ≠ 0 := zpow_ne_zero _ two_ne_zero
  have hne : (s : ℚ) * (2 : ℚ) ^ power ≠ 0 := mul_ne_zero (Nat.cast_ne_zero.mpr hs.ne') htwo
  simp only [nearestCode, if_neg hne, hpower, mul_div_cancel_right₀ _ htwo, roundEven_natCast]

lemma exponentUnit_eq : exponentUnit = 2 ^ 52 := rfl

/-- A code is its exponent bits and its significand, without the leading one if there is one. -/
lemma exponent_mul_add_significand (code : ℕ) :
    (exponent code + 1074).toNat * exponentUnit + significand code = code := by
  unfold exponent significand
  rw [exponentUnit_eq]
  split <;> omega

/-- The exponent of a code is the one that rounding chooses for its significand. -/
lemma max_log2_significand {code : ℕ} (hpos : 0 < code) :
    max (((significand code).log2 : ℤ) + exponent code - 52) (-1074) = exponent code := by
  unfold exponent significand
  rw [exponentUnit_eq]
  split
  · rename_i hlt
    have hlog : code.log2 < 52 := (Nat.log2_lt hpos.ne').mpr hlt
    omega
  · rename_i hge
    have hlog : (2 ^ 52 + code % 2 ^ 52).log2 = 52 := by
      rw [Nat.log2_eq_iff (by positivity)]
      omega
    omega

lemma significand_pos {code : ℕ} (hpos : 0 < code) : 0 < significand code := by
  unfold significand
  rw [exponentUnit_eq]
  split <;> omega

/-- **What a code stands for is not rounded.** -/
theorem nearestCode_magnitude {code : ℕ} (h : code < infinityCode) :
    nearestCode (significand code * (2 : ℚ) ^ exponent code) = code := by
  rcases Nat.eq_zero_or_pos code with rfl | hpos
  · simp [significand, nearestCode, exponentUnit_eq]
  · have hs := significand_pos hpos
    have hpower : max (Int.log 2 ((significand code : ℚ) * (2 : ℚ) ^ exponent code) - 52) (-1074) =
        exponent code := by
      rw [log_mul_zpow hs.ne', max_log2_significand hpos]
    rw [nearestCode_mul hs hpower, exponent_mul_add_significand, Nat.min_eq_left h.le]

/-! ## Decimals -/

namespace Decimal

/-- A decimal as a rational number. -/
def value (d : Decimal) : ℚ :=
  d.digits * (10 : ℚ) ^ d.exponent

lemma code_eq (d : Decimal) : d.code = nearestCode d.value := by
  rw [code, nearest_eq (Fraction.den_scaled_pos _ (by decide) _), Fraction.value_scaled, value,
    Nat.cast_ofNat]

end Decimal

/-- A negative power of two is a power of five over a power of ten. -/
lemma value_exactDecimal (code : ℕ) :
    (exactDecimal code).value = significand code * (2 : ℚ) ^ exponent code := by
  unfold exactDecimal
  split
  · rename_i power hpower
    simp [Decimal.value, hpower]
  · rename_i power hpower
    have hten : (10 : ℚ) ^ (power + 1) = 2 ^ (power + 1) * 5 ^ (power + 1) := by
      rw [← mul_pow]
      norm_num
    have hdigits : ((significand code * Nat.pow 5 (power + 1) : ℕ) : ℚ) =
        significand code * (5 : ℚ) ^ (power + 1) := by
      simp
    rw [Decimal.value, hpower, hdigits, zpow_negSucc, zpow_negSucc, hten]
    field_simp

/-- A decimal of a grid is only taken if it reads back. -/
lemma code_of_onGrid? {code : ℕ} {value : Fraction} {unit : ℤ} {d : Decimal}
    (h : onGrid? code value unit = some d) : d.code = code := by
  simp only [onGrid?] at h
  split at h
  · rename_i hbelow habove
    obtain rfl := Option.some.inj h
    split
    · exact beq_iff_eq.mp habove
    · exact beq_iff_eq.mp hbelow
  · rename_i hbelow _
    obtain rfl := Option.some.inj h
    exact beq_iff_eq.mp hbelow
  · rename_i _ habove
    obtain rfl := Option.some.inj h
    exact beq_iff_eq.mp habove
  · cases h

/-- **The shortest decimal of a code reads back as the code.** -/
theorem code_shortest {code : ℕ} (h : code < infinityCode) : (shortest code).code = code := by
  unfold shortest
  split
  · rename_i hzero
    rw [hzero]
    rfl
  · dsimp only
    cases hfind : (List.range maxDigits).findSome? _ with
    | none => rw [Option.getD_none, Decimal.code_eq, value_exactDecimal, nearestCode_magnitude h]
    | some d =>
        obtain ⟨n, -, hgrid⟩ := List.exists_of_findSome?_eq_some hfind
        exact code_of_onGrid? hgrid

end Reckon.Number
