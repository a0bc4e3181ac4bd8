import Mathlib.Tactic.Common
import Reckon.Segment

/-!
# Classes of characters

Where the code points of a class are.  Letters and digits of all scripts are given by long tables,
and what is needed of a table is in its first ranges: its least code point, and that the letters
and the digits of the Latin alphabet are in it.
-/

namespace Reckon

namespace Text

/-! ## Tables -/

namespace Ranges

/-- A code point of the first range is held. -/
lemma holds_cons_of_mem {first last code : Nat} {rest : Ranges}
    (h : first ≤ code ∧ code ≤ last) : holds ((first, last) :: rest) code = true := by
  simp [holds, Nat.not_lt.mpr h.1, h.2]

/-- A code point below the first range is not held. -/
lemma holds_cons_of_lt {first last code : Nat} {rest : Ranges} (h : code < first) :
    holds ((first, last) :: rest) code = false := by
  simp [holds, h]

/-- A code point of the second range is held when it lies beyond the first. -/
lemma holds_cons_cons_of_mem {first last first' last' code : Nat} {rest : Ranges}
    (hbeyond : first ≤ last ∧ last < code) (h : first' ≤ code ∧ code ≤ last') :
    holds ((first, last) :: (first', last') :: rest) code = true := by
  rw [holds, if_neg (by omega), if_neg (by omega)]
  exact holds_cons_of_mem h

end Ranges

lemma toNat_of_isAlpha {c : Char} (h : c.isAlpha = true) :
    (65 ≤ c.toNat ∧ c.toNat ≤ 90) ∨ (97 ≤ c.toNat ∧ c.toNat ≤ 122) := by
  have hcase : (c.isUpper || c.isLower) = true := h
  rcases (Bool.or_eq_true _ _).mp hcase with hupper | hlower
  · exact .inl (of_decide_eq_true hupper)
  · have hboth : (decide (c.val ≥ 'a'.val) && decide (c.val ≤ 'z'.val)) = true := hlower
    simp only [Bool.and_eq_true, decide_eq_true_eq] at hboth
    exact .inr hboth

/-- **The ten digits that numbers are written with are decimal digits.** -/
theorem isWordDigit_of_isDigit {c : Char} (h : c.isDigit = true) : isWordDigit c = true :=
  Ranges.holds_cons_of_mem (Char.isDigit_iff_toNat.mp h)

/-- **The letters of the Latin alphabet are letters.** -/
theorem isLetter_of_isAlpha {c : Char} (h : c.isAlpha = true) : isLetter c = true := by
  rcases toNat_of_isAlpha h with hupper | hlower
  · exact Ranges.holds_cons_of_mem hupper
  · exact Ranges.holds_cons_cons_of_mem (by omega) hlower

end Text

/-! ## Starts of pieces -/

namespace Segment

/-- Letters and the underscore are beyond the blanks, the digits and most symbols. -/
lemma le_toNat_of_startsWord {c : Char} (h : startsWord c = true) : 65 ≤ c.toNat := by
  simp only [startsWord, Bool.or_eq_true, beq_iff_eq] at h
  rcases h with h | rfl
  · by_contra hlt
    have hnot : Text.isLetter c = false := Text.Ranges.holds_cons_of_lt (by omega)
    rw [hnot] at h
    exact Bool.noConfusion h
  · decide

lemma toNat_le_of_isSeparator {c : Char} (h : isSeparator c = true) : c.toNat ≤ 32 := by
  simp only [isSeparator, Bool.or_eq_true, beq_iff_eq] at h
  rcases h with ((rfl | rfl) | rfl) | rfl <;> decide

end Segment

end Reckon
