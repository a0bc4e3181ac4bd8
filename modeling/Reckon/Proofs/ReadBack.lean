import Reckon.Proofs.Doubles
import Reckon.Proofs.Rounding
import Reckon.Proofs.Written

/-!
# Printed numbers read back

The text of a number that is written without a power of ten is a source, and running it gives the
number again, to the bit.

**Digits.**  The text of a decimal with a point is a numeral (`Decimal.exists_numeral`).  Its digits
differ from those of the decimal by zeros at either end, which changes nothing about the value, and
so nothing about the double that is nearest.

**Sources.**  A numeral is one token, and a minus sign before it is another: negation is an
operator, not a part of the literal.  No text is left behind the two: the parser would not look at
it, and the number would be another.

**Signs.**  The double of the digits has the code of the number (`code_shortest`), and negating it
gives the number its sign back, that of a zero as well (`eq_of_isFinite`).
-/

namespace Reckon

open Number

/-! ## Digits -/

namespace Number.Decimal

/-- The value of digits around a point is that of the digits on either side. -/
lemma value_ofDigits (whole fraction : List Char) :
    (ofDigits whole fraction).value =
      (Nat.ofDigitChars 10 whole 0 : ℚ) +
        (Nat.ofDigitChars 10 fraction 0 : ℚ) / 10 ^ fraction.length := by
  have hten : (10 : ℚ) ^ fraction.length ≠ 0 := by positivity
  rw [value, ofDigits, Nat.ofDigitChars_append, Nat.ofDigitChars_eq_ofDigitChars_zero, zpow_neg,
    zpow_natCast]
  push_cast
  field_simp

/-- Zeros on the left do not change a number. -/
lemma ofDigitChars_leftpad (width n : Nat) :
    Nat.ofDigitChars 10 (List.leftpad width '0' (Nat.toDigits 10 n)) 0 = n := by
  rw [List.leftpad, Nat.ofDigitChars_append, Nat.ofDigitChars_replicate_zero, Nat.mul_zero,
    Nat.ofDigitChars_ten_toDigits]

lemma isDigit_of_mem_leftpad {width n : Nat} {c : Char}
    (h : c ∈ List.leftpad width '0' (Nat.toDigits 10 n)) : c.isDigit = true := by
  rw [List.leftpad, List.mem_append] at h
  rcases h with h | h
  · rw [List.eq_of_mem_replicate h]
    rfl
  · exact Nat.isDigit_of_mem_toDigits (by decide) (by decide) h

/-- A remainder by a power of ten fills as many places as the power has. -/
lemma length_leftpad_mod (digits power : Nat) :
    (List.leftpad (power + 1) '0' (Nat.toDigits 10 (digits % 10 ^ (power + 1)))).length =
      power + 1 := by
  have hlt : digits % 10 ^ (power + 1) < 10 ^ (power + 1) := Nat.mod_lt _ (Nat.pow_pos (by decide))
  rw [List.length_leftpad,
    Nat.max_eq_left ((Nat.length_toDigits_le_iff (by decide) power.succ_pos).mpr hlt)]

/-- A decimal below the point, by the quotient and the remainder of its digits. -/
lemma div_add_mod_div (digits power : Nat) :
    ((digits / 10 ^ (power + 1) : Nat) : ℚ) +
        ((digits % 10 ^ (power + 1) : Nat) : ℚ) / 10 ^ (power + 1) =
      digits * (10 : ℚ) ^ Int.negSucc power := by
  have hdiv : ((10 ^ (power + 1) * (digits / 10 ^ (power + 1)) + digits % 10 ^ (power + 1) : Nat) :
      ℚ) = digits := congrArg Nat.cast (Nat.div_add_mod digits _)
  push_cast at hdiv
  rw [zpow_negSucc, ← hdiv]
  field_simp

/-- The digits before and behind the point of a decimal are a numeral of the same value. -/
lemma exists_numeral (d : Decimal) :
    ∃ n : Numeral, n.fraction ≠ [] ∧ d.plainText = n.text ∧
      (ofDigits n.whole n.fraction).value = d.value := by
  have hdigits (k : Nat) : ∀ c ∈ Nat.toDigits 10 k, c.isDigit = true :=
    fun c => Nat.isDigit_of_mem_toDigits (by decide) (by decide)
  obtain ⟨digits, exponent⟩ := d
  cases exponent with
  | ofNat power =>
      refine ⟨⟨Nat.toDigits 10 (digits * 10 ^ power), ['0'], Nat.toDigits_ne_nil, hdigits _,
        by simp⟩, by simp, by simp [plainText, Numeral.text], ?_⟩
      have hzero : Nat.ofDigitChars 10 ['0'] 0 = 0 := by decide
      rw [value_ofDigits, Nat.ofDigitChars_ten_toDigits, hzero]
      simp [value]
  | negSucc power =>
      have hlength := length_leftpad_mod digits power
      have hne : List.leftpad (power + 1) '0'
          (Nat.toDigits 10 (digits % 10 ^ (power + 1))) ≠ [] :=
        List.ne_nil_of_length_pos (by omega)
      refine ⟨⟨Nat.toDigits 10 (digits / 10 ^ (power + 1)), _, Nat.toDigits_ne_nil, hdigits _,
        fun c => isDigit_of_mem_leftpad⟩, hne, ?_, ?_⟩
      · rw [Numeral.text, if_neg hne]
        rfl
      · rw [value_ofDigits, Nat.ofDigitChars_ten_toDigits, ofDigitChars_leftpad, hlength,
          div_add_mod_div, value]

end Number.Decimal

/-! ## Sources -/

/-- A source that is one operand, with operators before it or without, has the value of the
operand. -/
lemma run_of_unary {source : List Char} {pieces : List Segment} {e : Expr} {v : Value}
    (hpieces : segments source = pieces) (hnone : ∀ piece ∈ pieces, piece.fault? = none)
    (hder : Derives .unary (tokensFrom 1 pieces) e) (hd : e.depth ≤ maxDepth)
    (heval : e.eval = .ok v) : run (String.ofList source) = .ok v := by
  have hfactor : Derives (.level .factor) (tokensFrom 1 pieces) e := .operand hder
  have hheads : Heads (tokensFrom 1 pieces ++ [Token.endAt (1 + Text.lineFeeds source)])
      (tokensFrom 1 pieces) e :=
    ⟨[], beforeEnd_append hder.isEnd_eq_false, hfactor.expression_of_level, by simp⟩
  rw [hheads.run_eq (scan_of_segments hpieces hnone) hd, heval]
  rfl

namespace Numeral

lemma segments_text (n : Numeral) : segments n.text = [⟨.number, n.text⟩] := by
  have happend : segments (n.text ++ []) = ⟨.number, n.text⟩ :: segments [] :=
    segments_literal n.lexeme (by simp) rfl (by simp [Delimits])
  simpa using happend

lemma derives_primary (n : Numeral) (line : Nat) :
    Derives .primary (tokensFrom line [⟨.number, n.text⟩]) (.literal (.number n.value)) := by
  refine .carried (by simp) ?_
  show some (Value.number (Segment.decimal n.text).toFloat) = some (.number n.value)
  rw [n.decimal_text, value]

/-- A numeral is a source. -/
lemma run_text (n : Numeral) : run (String.ofList n.text) = .ok (.number n.value) :=
  run_of_unary n.segments_text (by simp [Segment.fault?]) (.primary (n.derives_primary 1))
    (Nat.zero_le _) rfl

/-- A numeral with a minus sign before it is a source. -/
lemma run_minus_text (n : Numeral) :
    run (String.ofList ('-' :: n.text)) = .ok (.number (-n.value)) := by
  have hgrow : ¬ GrowsSymbol n.text := by
    simpa [Tree.source] using (Tree.number n).not_growsSymbol_source []
  have hpieces : segments ('-' :: n.text) = [⟨.symbol .minus, ['-']⟩, ⟨.number, n.text⟩] := by
    rw [← n.segments_text]
    exact segments_symbol UnaryOp.negate.symbol_mem hgrow
  let minus := Token.ofSymbol UnaryOp.negate.symbol (1 + Text.lineFeeds ['-'])
  have hder : Derives .unary (tokensFrom 1 [⟨.symbol .minus, ['-']⟩, ⟨.number, n.text⟩])
      (.unary minus (.literal (.number n.value))) := by
    rw [tokensFrom_symbol 1 (['-'], .minus)]
    exact .prefixed UnaryOp.negate.symbol_mem_prefixes (.primary (n.derives_primary _))
  exact run_of_unary hpieces (by simp [Segment.fault?]) hder (by simp [Expr.depth, maxDepth]) rfl

end Numeral

/-! ## Signs -/

/-- **Printed numbers read back.**  Zero, and every number from `0.0001` up to but without `1e16` in
magnitude, is written as digits, a point and digits, with a minus sign before them if it is signed.
The digits are read as its magnitude, and running the text gives the number, with its sign. -/
theorem run_text_number {x : Float} (h : (x == 0) = true ∨ 0.0001 ≤ x.abs ∧ x.abs < 1e16) :
    (∃ n : Numeral, n.fraction ≠ [] ∧
      (Value.number x).text = String.ofList (if isSigned x then '-' :: n.text else n.text) ∧
      (if isSigned x then -n.value else n.value) = x) ∧
    run (Value.number x).text = .ok (.number x) := by
  have hfinite : x.isFinite = true := by
    rcases h with h | ⟨-, h⟩
    · exact isFinite_of_beq_zero h
    · exact isFinite_of_abs_lt h
  have hplain : isPlain x = true := by simpa [isPlain] using h
  obtain ⟨hcode, hsign⟩ := eq_of_isFinite hfinite
  obtain ⟨n, hne, htext, hvalue⟩ := (shortest (codeOf x)).exists_numeral
  -- the digits of the text are not those of the decimal, but the value alone decides the code
  have hread : n.value = Float.ofBits (.ofNat (codeOf x)) := by
    rw [Numeral.value, Decimal.toFloat, Decimal.code_eq, hvalue, ← Decimal.code_eq,
      code_shortest hcode]
  have hmagnitude : magnitudeText x = n.text := by
    rw [magnitudeText, if_neg hcode.ne, if_pos hplain, htext]
  have hwritten : Number.text x = if isSigned x then '-' :: n.text else n.text := by
    rw [Number.text, isNaN_of_isFinite hfinite, if_neg Bool.false_ne_true, hmagnitude]
  rw [← hread] at hsign
  refine ⟨⟨n, hne, congrArg String.ofList hwritten, hsign⟩, ?_⟩
  rw [Value.text, hwritten]
  cases hx : isSigned x with
  | true =>
      rw [hx, if_pos rfl] at hsign
      rw [if_pos rfl, n.run_minus_text, hsign]
  | false =>
      rw [hx, if_neg Bool.false_ne_true] at hsign
      rw [if_neg Bool.false_ne_true, n.run_text, hsign]

/-- A tenth, which no double equals, reads back as the double nearest to it, and the two zeros read
back as two numbers. -/
theorem run_tenth_and_zeros :
    run "0.1" = .ok (.number 0.1) ∧ run "0.0" = .ok (.number 0.0) ∧
    run "-0.0" = .ok (.number (-0.0)) ∧ Value.number 0.0 ≠ .number (-0.0) := by
  have htenth := (run_text_number (x := 0.1) (.inr (by decide +kernel))).2
  have hzero := (run_text_number (x := 0.0) (.inl (by decide +kernel))).2
  have hnegative := (run_text_number (x := -0.0) (.inl (by decide +kernel))).2
  have htexts : (Value.number 0.1).text = "0.1" ∧ (Value.number 0.0).text = "0.0" ∧
      (Value.number (-0.0)).text = "-0.0" := by decide +kernel
  rw [htexts.1] at htenth
  rw [htexts.2.1] at hzero
  rw [htexts.2.2] at hnegative
  exact ⟨htenth, hzero, hnegative, by decide +kernel⟩

end Reckon
