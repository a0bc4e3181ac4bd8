import Reckon.Proofs.Failures
import Reckon.Proofs.Typing

/-!
# Strings are put together from strings

An expression comes to a string in one way only: its literals are strings, and nothing but plus
signs and parentheses stands above them.  The string is then all of the literals, from left to
right.

**Operators.**  The table of signatures has a string for a result in one row, that of the plus sign
between two strings (`BinaryOp.signature?_eq_string_iff`), and the operators with one operand have
none.  So no other operator makes a string, whatever its operands hold.

**Expressions.**  `Expr.leaves` lists the literals of an expression from left to right, and
`Expr.OnlyAdds` says what stands above them.  Neither a nesting of plus signs nor a pair of
parentheses shows in the list, so neither shows in the string.
-/

namespace Reckon

/-! ## Operators -/

lemma UnaryOp.signature?_ne_string (op : UnaryOp) (operand : Value.Kind) :
    op.signature? operand ≠ some .string := by
  cases op <;> cases operand <;> simp [signature?]

lemma BinaryOp.signature?_eq_string_iff {op : BinaryOp} {left right : Value.Kind} :
    op.signature? left right = some .string ↔ op = .add ∧ left = .string ∧ right = .string := by
  cases op <;> cases left <;> cases right <;> simp [signature?]

lemma Value.kind_eq_string_iff {v : Value} : v.kind = .string ↔ ∃ s, v = .string s := by
  cases v <;> simp [kind]

lemma Token.Kind.binaryOp?_eq_add_iff {kind : Token.Kind} :
    kind.binaryOp? = some .add ↔ kind = .plus := by
  cases kind <;> simp [binaryOp?]

namespace Token

/-- Inference comes to a kind only by a signature. -/
lemma signature_of_mapError {operator : Token} {signature : Option Value.Kind} {m : Mismatch}
    {kind : Value.Kind}
    (h : (signature.elim (.error m) Except.ok).mapError operator.mismatch = .ok kind) :
    signature = some kind := by
  cases signature with
  | none => cases h
  | some found => rw [Except.ok.inj h]

lemma exists_of_inferUnary {operator : Token} {operand kind : Value.Kind}
    (h : operator.inferUnary operand = .ok kind) :
    ∃ op, operator.kind.unaryOp? = some op ∧ op.signature? operand = some kind := by
  unfold inferUnary at h
  split at h
  · rename_i op hop
    exact ⟨op, hop, signature_of_mapError h⟩
  · cases h

lemma exists_of_inferBinary {operator : Token} {left right kind : Value.Kind}
    (h : operator.inferBinary left right = .ok kind) :
    ∃ op, operator.kind.binaryOp? = some op ∧ op.signature? left right = some kind := by
  unfold inferBinary at h
  split at h
  · rename_i op hop
    exact ⟨op, hop, signature_of_mapError h⟩
  · cases h

/-- An operator with one operand does not make a string. -/
lemma applyUnary_ne_string (operator : Token) (v : Value) (s : String) :
    operator.applyUnary v ≠ .ok (.string s) := by
  intro h
  have hkind : operator.inferUnary v.kind = .ok .string := by
    rw [← operator.kind_applyUnary, h]
    rfl
  obtain ⟨op, -, hsignature⟩ := exists_of_inferUnary hkind
  exact op.signature?_ne_string v.kind hsignature

/-- Of the operators with two operands only the plus sign makes a string, and it makes it of two
strings, the left one first. -/
lemma applyBinary_eq_string_iff {operator : Token} {v w : Value} {s : String} :
    operator.applyBinary v w = .ok (.string s) ↔
      operator.kind = .plus ∧ ∃ a b, v = .string a ∧ w = .string b ∧ s = a ++ b := by
  constructor
  · intro h
    have hkind : operator.inferBinary v.kind w.kind = .ok .string := by
      rw [← operator.kind_applyBinary, h]
      rfl
    obtain ⟨op, hop, hsignature⟩ := exists_of_inferBinary hkind
    obtain ⟨rfl, hv, hw⟩ := BinaryOp.signature?_eq_string_iff.mp hsignature
    obtain ⟨a, rfl⟩ := Value.kind_eq_string_iff.mp hv
    obtain ⟨b, rfl⟩ := Value.kind_eq_string_iff.mp hw
    simp only [applyBinary, hop] at h
    have hs : a ++ b = s := Value.string.inj (Except.ok.inj h)
    exact ⟨Kind.binaryOp?_eq_add_iff.mp hop, a, b, rfl, rfl, hs.symm⟩
  · rintro ⟨hplus, a, b, rfl, rfl, rfl⟩
    simp only [applyBinary, Kind.binaryOp?_eq_add_iff.mpr hplus]
    rfl

end Token

/-! ## Expressions -/

namespace Expr

/-- The literals of an expression, from left to right. -/
def leaves : Expr → List Value
  | .literal v => [v]
  | .grouping inner => inner.leaves
  | .unary _ operand => operand.leaves
  | .binary left _ right => left.leaves ++ right.leaves

/-- Nothing but parentheses and plus signs with two operands stands above the literals. -/
def OnlyAdds : Expr → Prop
  | .literal _ => True
  | .grouping inner => inner.OnlyAdds
  | .unary _ _ => False
  | .binary left operator right => operator.kind = .plus ∧ left.OnlyAdds ∧ right.OnlyAdds

/-- The literals of an expression are strings, and together they are the string. -/
def Spells (e : Expr) (s : String) : Prop :=
  ∃ parts, e.leaves = parts.map Value.string ∧ s = String.join parts

lemma spells_literal {v : Value} {s : String} : (literal v).Spells s ↔ v = .string s := by
  constructor
  · rintro ⟨parts, hparts, rfl⟩
    obtain ⟨a, rfl, rfl⟩ := List.map_eq_singleton_iff.mp hparts.symm
    simp
  · rintro rfl
    exact ⟨[s], rfl, by simp⟩

/-- Where a text is put together from the literals of two expressions, each of them has its part. -/
lemma spells_binary {left : Expr} {operator : Token} {right : Expr} {s : String} :
    (binary left operator right).Spells s ↔ ∃ a b, left.Spells a ∧ right.Spells b ∧ s = a ++ b := by
  constructor
  · rintro ⟨parts, hparts, rfl⟩
    obtain ⟨first, second, rfl, hfirst, hsecond⟩ := List.map_eq_append_iff.mp hparts.symm
    exact ⟨_, _, ⟨first, hfirst.symm, rfl⟩, ⟨second, hsecond.symm, rfl⟩, String.join_append⟩
  · rintro ⟨a, b, ⟨first, hfirst, rfl⟩, ⟨second, hsecond, rfl⟩, rfl⟩
    have hparts : (binary left operator right).leaves = (first ++ second).map Value.string := by
      rw [leaves, hfirst, hsecond, List.map_append]
    exact ⟨first ++ second, hparts, String.join_append.symm⟩

/-- The way to a string, by induction on the expression.  A prefix operator is where it ends. -/
lemma eval_eq_string_iff {e : Expr} {s : String} :
    e.eval = .ok (.string s) ↔ e.OnlyAdds ∧ e.Spells s := by
  induction e generalizing s with
  | literal v => simp [eval, OnlyAdds, spells_literal]
  | grouping inner ih => exact ih
  | unary operator operand ih =>
      constructor
      · intro h
        obtain ⟨v, -, h⟩ := bind_eq_ok h
        exact absurd h (operator.applyUnary_ne_string v s)
      · rintro ⟨hnone, -⟩
        exact hnone.elim
  | binary left operator right ihl ihr =>
      rw [OnlyAdds, spells_binary]
      constructor
      · intro h
        obtain ⟨v, hv, h⟩ := bind_eq_ok h
        obtain ⟨w, hw, h⟩ := bind_eq_ok h
        obtain ⟨hplus, a, b, rfl, rfl, rfl⟩ := Token.applyBinary_eq_string_iff.mp h
        obtain ⟨hleft, ha⟩ := ihl.mp hv
        obtain ⟨hright, hb⟩ := ihr.mp hw
        exact ⟨⟨hplus, hleft, hright⟩, a, b, ha, hb, rfl⟩
      · rintro ⟨⟨hplus, hleft, hright⟩, a, b, ha, hb, rfl⟩
        rw [eval, ihl.mpr ⟨hleft, ha⟩, ihr.mpr ⟨hright, hb⟩]
        exact Token.applyBinary_eq_string_iff.mpr ⟨hplus, a, b, rfl, rfl, rfl⟩

/-- **A string is the strings that it is put together from.**  An expression comes to a string
exactly if all its literals are strings, nothing but plus signs and parentheses stands above them,
and the string is the literals one behind the other.  Another expression with the same literals,
however its plus signs are nested and wherever its parentheses stand, comes to the same string. -/
theorem eval_eq_string_iff_leaves (e : Expr) (s : String) :
    (e.eval = .ok (.string s) ↔
      e.OnlyAdds ∧ ∃ parts, e.leaves = parts.map Value.string ∧ s = String.join parts) ∧
    ∀ e' : Expr, e'.OnlyAdds → e'.leaves = e.leaves → e.eval = .ok (.string s) →
      e'.eval = .ok (.string s) := by
  refine ⟨eval_eq_string_iff, ?_⟩
  intro e' hadds hleaves h
  obtain ⟨-, parts, hparts, hs⟩ := eval_eq_string_iff.mp h
  exact eval_eq_string_iff.mpr ⟨hadds, parts, hleaves.trans hparts, hs⟩

/-- A sum of two expressions. -/
def plus (left right : Expr) : Expr :=
  .binary left ⟨.plus, "+", none, 1⟩ right

/-- A string literal. -/
def quote (s : String) : Expr :=
  .literal (.string s)

/-- Three strings, nested to the left, and nested to the right in parentheses. -/
theorem eval_nested_plus :
    (plus (plus (quote "a") (quote "")) (quote "b")).eval = .ok (.string "ab") ∧
      (plus (quote "a") (.grouping (plus (quote "") (quote "b")))).eval = .ok (.string "ab") := by
  have hleft : (plus (plus (quote "a") (quote "")) (quote "b")).eval = .ok (.string "ab") :=
    (eval_eq_string_iff_leaves _ "ab").1.mpr
      ⟨⟨rfl, ⟨rfl, trivial, trivial⟩, trivial⟩, ["a", "", "b"], rfl, by decide⟩
  refine ⟨hleft, (eval_eq_string_iff_leaves _ "ab").2 _ ?_ rfl hleft⟩
  exact ⟨rfl, trivial, rfl, trivial, trivial⟩

end Expr

end Reckon
