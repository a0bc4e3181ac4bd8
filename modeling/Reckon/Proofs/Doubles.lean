import Mathlib
import Reckon.Number.Layout

/-!
# Doubles by sign and code

A double that is neither infinite nor no number is known by its sign and by the code of its
magnitude.

**Parts.**  The pattern of a double is its sign, its exponent bits and its fraction bits behind each
other, and its code is the last two (`exists_parts`).

**Signs.**  Unpacking treats the sign apart from the other bits, so a pattern with the other sign
unpacks to the negated number (`neg_unpack`).  Packing is no detour for a pattern that is not of no
number.

**Finite doubles.**  What compares as less than anything in magnitude, or as equal to zero, is
finite: infinity is less than nothing, and no number does not compare.
-/

namespace Reckon.Number

open Float.Model (Format UnpackedFloat)
open Float.Model.UnpackedFloat

/-! ## Parts of a pattern -/

/-- The pattern with a sign, exponent bits and fraction bits. -/
def pattern (sign : Sign) (high : BitVec 11) (low : BitVec 52) : UInt64 :=
  .ofBitVec (packComponents Format.binary64 sign high low)

lemma toNat_pattern (sign : Sign) (high : BitVec 11) (low : BitVec 52) :
    (pattern sign high low).toNat =
      sign.toBitVec.toNat * 2 ^ 63 + (high.toNat * 2 ^ 52 + low.toNat) := by
  have hpack : (pattern sign high low).toNat = (sign.toBitVec ++ high ++ low).toNat := rfl
  rw [hpack, BitVec.toNat_append, BitVec.toNat_append,
    ← Nat.shiftLeft_add_eq_or_of_lt high.isLt, ← Nat.shiftLeft_add_eq_or_of_lt low.isLt,
    Nat.shiftLeft_eq, Nat.shiftLeft_eq]
  ring

lemma signUnit_eq : signUnit = 2 ^ 63 := rfl

/-- The sign of a pattern and its code. -/
lemma signUnit_le_pattern_iff (sign : Sign) (high : BitVec 11) (low : BitVec 52) :
    (signUnit ≤ (pattern sign high low).toNat ↔ sign = .negative) ∧
      (pattern sign high low).toNat % signUnit = high.toNat * 2 ^ 52 + low.toNat := by
  have hhigh := high.isLt
  have hlow := low.isLt
  rw [toNat_pattern, signUnit_eq]
  cases sign with
  | negative =>
      have hsign : Sign.negative.toBitVec.toNat = 1 := rfl
      rw [hsign]
      exact ⟨iff_of_true (by omega) rfl, by omega⟩
  | positive =>
      have hsign : Sign.positive.toBitVec.toNat = 0 := rfl
      rw [hsign]
      exact ⟨iff_of_false (by omega) Sign.noConfusion, by omega⟩

lemma exists_eq_pattern (bits : UInt64) : ∃ sign high low, bits = pattern sign high low :=
  ⟨_, _, _, (congrArg UInt64.ofBitVec (@packComponents_unpackSign_unpackExponent_unpackMantissa
    Format.binary64 bits.toBitVec)).symm⟩

/-- The pattern of a double by its parts, which give its sign and its code. -/
lemma exists_parts (x : Float) :
    ∃ sign high low, x.toBits = pattern sign high low ∧
      (isSigned x = true ↔ sign = .negative) ∧ codeOf x = high.toNat * 2 ^ 52 + low.toNat := by
  obtain ⟨sign, high, low, hx⟩ := exists_eq_pattern x.toBits
  obtain ⟨hsigned, hcode⟩ := signUnit_le_pattern_iff sign high low
  refine ⟨sign, high, low, hx, ?_, ?_⟩
  · rwa [isSigned, decide_eq_true_iff, hx]
  · rwa [codeOf, hx]

/-! ## Signs -/

lemma neg_unpack (sign : Sign) (high : BitVec 11) (low : BitVec 52) :
    (unpack Format.binary64 (pattern sign high low).toBitVec).neg =
      unpack Format.binary64 (pattern (-sign) high low).toBitVec := by
  simp only [pattern, unpack, unpackSign_packComponents, unpackExponent_packComponents,
    unpackMantissa_packComponents, Sign.ofBitVec_toBitVec]
  split
  · split <;> rfl
  · split
    · split <;> rfl
    · rfl

/-- Negation changes the sign of a pattern, unless it is of no number. -/
lemma neg_ofBits_pattern (sign : Sign) {high : BitVec 11} (hhigh : high.toNat < 2047)
    (low : BitVec 52) :
    -Float.ofBits (pattern sign high low) = Float.ofBits (pattern (-sign) high low) := by
  have hnumber : @isNaNBits Format.binary64 (pattern sign high low).toBitVec = false := by
    have hne : ¬ high = -1#11 := by
      rintro rfl
      exact absurd hhigh (by decide)
    simp only [isNaNBits, pattern, unpackExponent_packComponents, hne, false_and, decide_false]
  have hunpack : (Float.ofBits (pattern sign high low)).toModel.unpack =
      unpack Format.binary64 (pattern sign high low).toBitVec := by
    have hpack := @pack_unpack Format.binary64 (pattern sign high low).toBitVec (by decide)
    rw [hnumber, if_neg Bool.false_ne_true] at hpack
    exact congrArg (unpack Format.binary64) hpack
  calc -Float.ofBits (pattern sign high low)
      = .ofModel (.pack (Float.ofBits (pattern sign high low)).toModel.unpack.neg) := rfl
    _ = .ofModel (.pack (unpack Format.binary64 (pattern (-sign) high low).toBitVec)) := by
        rw [hunpack, neg_unpack]
    _ = Float.ofBits (pattern (-sign) high low) := rfl

/-! ## Finite doubles -/

lemma unpack_pack_infinity (sign : Sign) :
    unpack Format.binary64 (pack Format.binary64 (.infinity sign)) = .infinity sign := by
  simp [unpack, pack, packedInfinity]

lemma compare_infinity_ne (y : UnpackedFloat) :
    (UnpackedFloat.infinity .positive).compare y ≠ some .lt := by
  cases y with
  | infinity sign => cases sign <;> decide
  | _ => simp [UnpackedFloat.compare]

lemma isFinite_of_abs_lt {x y : Float} (h : x.abs < y) : x.isFinite = true := by
  have hlt : (x.toModel.abs.unpack.compare y.toModel.unpack == some .lt) = true :=
    of_decide_eq_true h
  have habs : x.toModel.abs.unpack =
      unpack Format.binary64 (pack Format.binary64 x.toModel.unpack.abs) := rfl
  rw [habs, beq_iff_eq] at hlt
  show x.toModel.unpack.isFinite = true
  cases hx : x.toModel.unpack with
  | infinity sign =>
      rw [hx, UnpackedFloat.abs, unpack_pack_infinity] at hlt
      exact absurd hlt (compare_infinity_ne _)
  | notANumber =>
      rw [hx, UnpackedFloat.abs, pack, unpack_packedNaN] at hlt
      simp [UnpackedFloat.compare] at hlt
  | zero sign => rfl
  | finite sign m e hm => rfl

lemma isFinite_of_beq_zero {x : Float} (h : (x == 0) = true) : x.isFinite = true := by
  have heq : (x.toModel.unpack.compare (.zero .positive) == some .eq) = true := h
  rw [beq_iff_eq] at heq
  show x.toModel.unpack.isFinite = true
  cases hx : x.toModel.unpack with
  | infinity sign => cases sign <;> simp [hx, UnpackedFloat.compare] at heq
  | notANumber => simp [hx, UnpackedFloat.compare] at heq
  | zero sign => rfl
  | finite sign m e hm => rfl

lemma isNaN_of_isFinite {x : Float} (h : x.isFinite = true) : x.isNaN = false := by
  change x.toModel.unpack.isFinite = true at h
  show x.toModel.unpack.isNaN = false
  cases hx : x.toModel.unpack with
  | notANumber => simp [hx, UnpackedFloat.isFinite] at h
  | _ => rfl

/-- The exponent bits of a finite double are not all set. -/
lemma high_lt_of_isFinite {x : Float} {sign : Sign} {high : BitVec 11} {low : BitVec 52}
    (hx : x.toBits = pattern sign high low) (h : x.isFinite = true) : high.toNat < 2047 := by
  change (unpack Format.binary64 x.toBits.toBitVec).isFinite = true at h
  by_contra hge
  have hall : high = -1#11 := by
    apply BitVec.eq_of_toNat_eq
    have hlt := high.isLt
    show high.toNat = 2047
    omega
  rw [hx, pattern] at h
  simp only [unpack, unpackExponent_packComponents, hall, if_true] at h
  split at h <;> simp [UnpackedFloat.isFinite] at h

/-- **A finite double is known by its sign and its code.** -/
theorem eq_of_isFinite {x : Float} (h : x.isFinite = true) :
    codeOf x < infinityCode ∧
      (if isSigned x then -Float.ofBits (.ofNat (codeOf x)) else Float.ofBits (.ofNat (codeOf x))) =
        x := by
  obtain ⟨sign, high, low, hx, hsigned, hcode⟩ := exists_parts x
  have hhigh := high_lt_of_isFinite hx h
  have hlow := low.isLt
  have hpositive : UInt64.ofNat (codeOf x) = pattern .positive high low := by
    have hsign : Sign.positive.toBitVec.toNat = 0 := rfl
    rw [← UInt64.toNat_inj, UInt64.toNat_ofNat', toNat_pattern, hsign, hcode]
    omega
  refine ⟨?_, ?_⟩
  · rw [hcode]
    show _ < 2047 * 2 ^ 52
    omega
  · rw [hpositive]
    cases sign with
    | negative =>
        rw [if_pos (hsigned.mpr rfl), neg_ofBits_pattern _ hhigh]
        show Float.ofBits (pattern .negative high low) = x
        rw [← hx, Float.ofBits_toBits]
    | positive =>
        rw [if_neg (mt hsigned.mp Sign.noConfusion), ← hx, Float.ofBits_toBits]

end Reckon.Number
