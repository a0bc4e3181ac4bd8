import Mathlib.Tactic.Common
import Reckon.Expr.Eval

/-!
# Kinds decide what goes wrong

Whether an expression has a value, of what kind the value is, and otherwise what is wrong and where,
can be told without evaluating anything: the kinds of its literals are enough.

**Signatures.**  `UnaryOp.signature?` and `BinaryOp.signature?` say which kinds of operand an
operator takes and what kind it makes of them.  Where there is no signature, the mismatch follows
from the kinds as well.

**Inference.**  `Expr.infer` carries signatures through an expression in the order of evaluation.
It is evaluation seen through kinds (`Expr.kind_eval`), so two expressions that differ in the
contents of their literals only cannot be told apart by it (`Expr.Alike.infer_eq`).
-/

namespace Reckon

/-! ## Signatures -/

/-- The kind of the result of an operator, if it takes an operand of the kind. -/
def UnaryOp.signature? : UnaryOp → Value.Kind → Option Value.Kind
  | .negate, .number => some .number
  | .not, .bool => some .bool
  | _, _ => none

/-- The kind of the result of an operator, if it takes operands of the kinds.  Equality is the one
operator that takes operands of two kinds, and only where one of them is nil. -/
def BinaryOp.signature? : BinaryOp → Value.Kind → Value.Kind → Option Value.Kind
  | .add, .string, .string => some .string
  | .add, .number, .number | .subtract, .number, .number | .multiply, .number, .number
  | .divide, .number, .number => some .number
  | .greater, .number, .number | .greaterEqual, .number, .number | .less, .number, .number
  | .lessEqual, .number, .number => some .bool
  | .equal, left, right | .notEqual, left, right =>
    if left = right ∨ left = .nil ∨ right = .nil then some .bool else none
  | _, _, _ => none

/-- The mismatch of an operator with an operand of a kind that it does not take. -/
def UnaryOp.mismatch : UnaryOp → Value.Kind → Mismatch
  | .negate, received => .notNumber received
  | .not, received => .notBool received

/-- The mismatch of operands of kinds that do not go together: the first that is no number. -/
def BinaryOp.mismatch (left right : Value.Kind) : Mismatch :=
  .notNumber (if left = .number then right else left)

def UnaryOp.infer (op : UnaryOp) (operand : Value.Kind) : Except Mismatch Value.Kind :=
  (op.signature? operand).elim (.error (op.mismatch operand)) .ok

def BinaryOp.infer (op : BinaryOp) (left right : Value.Kind) : Except Mismatch Value.Kind :=
  (op.signature? left right).elim (.error (mismatch left right)) .ok

lemma UnaryOp.kind_apply (op : UnaryOp) (v : Value) :
    Value.kind <$> op.apply v = op.infer v.kind := by
  cases op <;> cases v <;> rfl

lemma BinaryOp.kind_apply (op : BinaryOp) (v w : Value) :
    Value.kind <$> op.apply v w = op.infer v.kind w.kind := by
  -- no operator looks into a value before it has looked at both kinds
  cases op <;> cases v <;> cases w <;> rfl

/-! ## Inference -/

namespace Token

/-- The kind of the result of the operator that a token stands for, or what is wrong. -/
def inferUnary (operator : Token) (operand : Value.Kind) : Except Diagnostic Value.Kind :=
  match operator.kind.unaryOp? with
  | some op => (op.infer operand).mapError operator.mismatch
  | none => .error operator.unsupported

def inferBinary (operator : Token) (left right : Value.Kind) : Except Diagnostic Value.Kind :=
  match operator.kind.binaryOp? with
  | some op => (op.infer left right).mapError operator.mismatch
  | none => .error operator.unsupported

lemma kind_mapError (operator : Token) (x : Except Mismatch Value) :
    Value.kind <$> x.mapError operator.mismatch =
      (Value.kind <$> x).mapError operator.mismatch := by
  cases x <;> rfl

lemma kind_applyUnary (operator : Token) (v : Value) :
    Value.kind <$> operator.applyUnary v = operator.inferUnary v.kind := by
  simp only [applyUnary, inferUnary]
  cases operator.kind.unaryOp? with
  | none => rfl
  | some op => rw [kind_mapError, op.kind_apply]

lemma kind_applyBinary (operator : Token) (v w : Value) :
    Value.kind <$> operator.applyBinary v w = operator.inferBinary v.kind w.kind := by
  simp only [applyBinary, inferBinary]
  cases operator.kind.binaryOp? with
  | none => rfl
  | some op => rw [kind_mapError, op.kind_apply]

end Token

namespace Expr

/-- The kind of the value of an expression, or what is wrong with it, by the kinds of its literals.
-/
def infer : Expr → Except Diagnostic Value.Kind
  | .literal value => .ok value.kind
  | .grouping inner => inner.infer
  | .unary operator operand => do
    let kind ← operand.infer
    operator.inferUnary kind
  | .binary left operator right => do
    let leftKind ← left.infer
    let rightKind ← right.infer
    operator.inferBinary leftKind rightKind

/-- **Evaluation is typed.**  It comes to a value exactly if a kind is inferred, which is the kind
of the value, and it fails with what inference fails with. -/
theorem kind_eval (e : Expr) : Value.kind <$> e.eval = e.infer := by
  induction e with
  | literal v => rfl
  | grouping inner ih => exact ih
  | unary operator operand ih =>
      -- the kind of an operand is all that the operator needs to know of it
      simp only [eval, infer, ← ih, map_bind, bind_map_left, Token.kind_applyUnary]
  | binary left operator right ihl ihr =>
      simp only [eval, infer, ← ihl, ← ihr, map_bind, bind_map_left, Token.kind_applyBinary]

/-! ## Expressions of the same kinds -/

/-- Two expressions of one shape, with the same operators, and with literals of the same kinds in
the same places. -/
inductive Alike : Expr → Expr → Prop where
  | literal {v w : Value} (h : v.kind = w.kind) : Alike (.literal v) (.literal w)
  | grouping {e e' : Expr} (h : Alike e e') : Alike (.grouping e) (.grouping e')
  | unary (operator : Token) {e e' : Expr} (h : Alike e e') :
      Alike (.unary operator e) (.unary operator e')
  | binary (operator : Token) {l l' r r' : Expr} (hl : Alike l l') (hr : Alike r r') :
      Alike (.binary l operator r) (.binary l' operator r')

lemma Alike.infer_eq {e e' : Expr} (h : e.Alike e') : e.infer = e'.infer := by
  induction h with
  | literal h => rw [infer, infer, h]
  | grouping _ ih => exact ih
  | unary operator _ ih => rw [infer, infer, ih]
  | binary operator _ _ ihl ihr => rw [infer, infer, ihl, ihr]

/-- **Faults depend on kinds only.**  Whatever the literals hold, two expressions of the same kinds
both have a value, of one kind, or fail with the same diagnostic. -/
theorem eval_agrees_of_alike {e e' : Expr} (h : e.Alike e') :
    (∃ v w, e.eval = .ok v ∧ e'.eval = .ok w ∧ v.kind = w.kind) ∨
      ∃ d, e.eval = .error d ∧ e'.eval = .error d := by
  have hkinds : Value.kind <$> e.eval = Value.kind <$> e'.eval := by
    rw [kind_eval, kind_eval, h.infer_eq]
  cases hv : e.eval with
  | ok v =>
      cases hw : e'.eval with
      | ok w =>
          rw [hv, hw] at hkinds
          exact .inl ⟨v, w, rfl, rfl, Except.ok.inj hkinds⟩
      | error d =>
          rw [hv, hw] at hkinds
          cases hkinds
  | error d =>
      cases hw : e'.eval with
      | ok w =>
          rw [hv, hw] at hkinds
          cases hkinds
      | error d' =>
          rw [hv, hw] at hkinds
          obtain rfl := Except.error.inj hkinds
          exact .inr ⟨d, rfl, rfl⟩

/-- A quotient with a string added to it. -/
def quotientPlus (x y : Float) (s : String) : Expr :=
  .binary (.binary (.literal (.number x)) ⟨.slash, "/", none, 1⟩ (.literal (.number y)))
    ⟨.plus, "+", none, 2⟩ (.literal (.string s))

/-- Neither a divisor that is zero nor one that is no number changes what is wrong with the sum. -/
theorem eval_quotientPlus :
    (quotientPlus 1 0 "").Alike (quotientPlus 0 (0 / 0) "a") ∧
      ∃ d, (quotientPlus 1 0 "").eval = .error d ∧
        (quotientPlus 0 (0 / 0) "a").eval = .error d := by
  have halike : (quotientPlus 1 0 "").Alike (quotientPlus 0 (0 / 0) "a") :=
    .binary _ (.binary _ (.literal rfl) (.literal rfl)) (.literal rfl)
  refine ⟨halike, ?_⟩
  rcases eval_agrees_of_alike halike with ⟨v, w, hv, -⟩ | herror
  · cases hv
  · exact herror

end Expr

end Reckon
