import Reckon.Proofs.Failures
import Reckon.Proofs.Typing

/-!
# Evaluation reports the first failure in postorder

An expression may hold several operators that do not apply to their operands.  Evaluation reports
one of them, and it can be said which one without following evaluation.

**Operators.**  `Token.Kind.applies` lists the kinds of operand that an operator takes, whatever the
number of operands, and `Token.Rejects` says what is wrong with others.  Applying an operator fails
exactly so (`Token.applyUnary_eq_error_iff`, `Token.applyBinary_eq_error_iff`).

**Postorder.**  `Expr.postorder` lists the nodes of an expression, each behind those of its
operands.  A node of such a list is the first to fail if all before it have values and its own
operator rejects the values of its operands.  Of two lists one behind the other, the second can only
fail first if all of the first have values (`Expr.failsFirst_append`), and that is how evaluation
goes from the operands of a node to the node.
-/

namespace Reckon

/-! ## Operators -/

/-- The kinds of token that are operators with a number of operands. -/
def Token.Kind.operatorsWith : Nat → List Token.Kind
  | 1 => [.minus, .bang]
  | 2 => [.minus, .plus, .star, .slash, .greater, .greaterEqual, .less, .lessEqual, .equalEqual,
      .bangEqual]
  | _ => []

/-- Whether a token of a kind is an operator that applies to operands of the kinds. -/
def Token.Kind.applies : Token.Kind → List Value.Kind → Bool
  | .minus, [.number] | .bang, [.bool] => true
  | .minus, [.number, .number] | .star, [.number, .number] | .slash, [.number, .number]
  | .greater, [.number, .number] | .greaterEqual, [.number, .number] | .less, [.number, .number]
  | .lessEqual, [.number, .number] => true
  | .plus, [.number, .number] | .plus, [.string, .string] => true
  | .equalEqual, [left, right] | .bangEqual, [left, right] =>
    left == right || left == .nil || right == .nil
  | _, _ => false

/-- What is wrong with an operator before operands of the kinds.  It is no operator with as many
operands, or it takes a truth value, or else it is the first operand that is no number. -/
inductive Token.Rejects (operator : Token) : List Value.Kind → Diagnostic → Prop where
  | unsupported {kinds : List Value.Kind}
      (h : operator.kind ∉ Token.Kind.operatorsWith kinds.length) :
      Token.Rejects operator kinds ⟨.unsupportedOperator operator.describe, operator.line⟩
  | notBool {received : Value.Kind} (h : operator.kind = .bang) :
      Token.Rejects operator [received]
        ⟨.operandNotBool operator.lexeme received.name, operator.line⟩
  | notNumber {kinds : List Value.Kind} {received : Value.Kind}
      (h : operator.kind ∈ Token.Kind.operatorsWith kinds.length) (hbang : operator.kind ≠ .bang)
      (hfirst : kinds.find? (· ≠ .number) = some received) :
      Token.Rejects operator kinds
        ⟨.operandNotNumber operator.lexeme received.name, operator.line⟩

/-- What becomes of operands of the kinds: the operator applies to them, or rejects them. -/
inductive Token.Decides (operator : Token) (kinds : List Value.Kind) :
    Except Diagnostic Value.Kind → Prop where
  | applies {kind : Value.Kind} (h : operator.kind.applies kinds = true) :
      Token.Decides operator kinds (.ok kind)
  | rejects {d : Diagnostic} (h : operator.kind.applies kinds = false)
      (hd : operator.Rejects kinds d) : Token.Decides operator kinds (.error d)

namespace Token

lemma Kind.mem_operatorsWith_one (kind : Kind) :
    kind ∈ operatorsWith 1 ↔ kind.unaryOp? ≠ none := by
  cases kind <;> simp [operatorsWith, unaryOp?]

lemma Kind.mem_operatorsWith_two (kind : Kind) :
    kind ∈ operatorsWith 2 ↔ kind.binaryOp? ≠ none := by
  cases kind <;> simp [operatorsWith, binaryOp?]

/-- An operator applies to one operand where it has a signature for it. -/
lemma Kind.applies_one (kind : Kind) (operand : Value.Kind) :
    kind.applies [operand] = (kind.unaryOp?.bind (·.signature? operand)).isSome := by
  cases kind <;> cases operand <;> rfl

lemma Kind.applies_two (kind : Kind) (left right : Value.Kind) :
    kind.applies [left, right] = (kind.binaryOp?.bind (·.signature? left right)).isSome := by
  cases kind <;> cases left <;> cases right <;> rfl

lemma Kind.eq_bang_of_unaryOp? {kind : Kind} (h : kind.unaryOp? = some .not) : kind = .bang := by
  cases kind with
  | bang => rfl
  | _ => cases h

/-- What is wrong follows from the operator and the kinds of its operands. -/
lemma Rejects.unique {operator : Token} {kinds : List Value.Kind} {d d' : Diagnostic}
    (h : operator.Rejects kinds d) (h' : operator.Rejects kinds d') : d' = d := by
  cases h with
  | unsupported hnone =>
      cases h' with
      | unsupported _ => rfl
      | notBool hbang => exact absurd (by simp [hbang, Kind.operatorsWith]) hnone
      | notNumber hmem _ _ => exact absurd hmem hnone
  | notBool hbang =>
      cases h' with
      | unsupported hnone => exact absurd (by simp [hbang, Kind.operatorsWith]) hnone
      | notBool _ => rfl
      | notNumber _ hother _ => exact absurd hbang hother
  | notNumber hmem hother hfirst =>
      cases h' with
      | unsupported hnone => exact absurd hmem hnone
      | notBool hbang => exact absurd hbang hother
      | notNumber _ _ hfirst' => rw [Option.some.inj (hfirst.symm.trans hfirst')]

lemma decides_inferUnary (operator : Token) (operand : Value.Kind) :
    operator.Decides [operand] (operator.inferUnary operand) := by
  have happlies := operator.kind.applies_one operand
  unfold inferUnary
  cases hop : operator.kind.unaryOp? with
  | none =>
      have hnone : operator.kind ∉ Kind.operatorsWith 1 := by simp [Kind.mem_operatorsWith_one, hop]
      exact .rejects (by simp [happlies, hop]) (.unsupported hnone)
  | some op =>
      have hmem : operator.kind ∈ Kind.operatorsWith 1 := by simp [Kind.mem_operatorsWith_one, hop]
      simp only [UnaryOp.infer]
      cases hsig : op.signature? operand with
      | some kind => exact .applies (by simp [happlies, hop, hsig])
      | none =>
          refine .rejects (by simp [happlies, hop, hsig]) ?_
          cases op with
          | not => exact .notBool (Kind.eq_bang_of_unaryOp? hop)
          | negate =>
              have hother : operator.kind ≠ .bang := by
                intro hbang
                rw [hbang] at hop
                cases hop
              have hfirst : [operand].find? (· ≠ .number) = some operand := by
                cases operand with
                | number => cases hsig
                | _ => rfl
              exact .notNumber hmem hother hfirst

lemma decides_inferBinary (operator : Token) (left right : Value.Kind) :
    operator.Decides [left, right] (operator.inferBinary left right) := by
  have happlies := operator.kind.applies_two left right
  unfold inferBinary
  cases hop : operator.kind.binaryOp? with
  | none =>
      have hnone : operator.kind ∉ Kind.operatorsWith 2 := by simp [Kind.mem_operatorsWith_two, hop]
      exact .rejects (by simp [happlies, hop]) (.unsupported hnone)
  | some op =>
      have hmem : operator.kind ∈ Kind.operatorsWith 2 := by simp [Kind.mem_operatorsWith_two, hop]
      simp only [BinaryOp.infer]
      cases hsig : op.signature? left right with
      | some kind => exact .applies (by simp [happlies, hop, hsig])
      | none =>
          refine .rejects (by simp [happlies, hop, hsig]) ?_
          have hother : operator.kind ≠ .bang := by
            intro hbang
            rw [hbang] at hop
            cases hop
          -- one of the operands is no number, since every operator takes two numbers
          have hnumbers : ¬ (left = .number ∧ right = .number) := by
            rintro ⟨rfl, rfl⟩
            cases op <;> cases hsig
          have hfirst : [left, right].find? (· ≠ .number) =
              some (if left = .number then right else left) := by
            by_cases hleft : left = .number
            · simpa [hleft] using hnumbers
            · simp [hleft]
          exact .notNumber hmem hother hfirst

/-- Where only kinds are looked at, applying an operator fails as it rejects the kinds. -/
lemma Decides.eq_error_iff {operator : Token} {kinds : List Value.Kind}
    {x : Except Diagnostic Value} (h : operator.Decides kinds (Value.kind <$> x))
    {d : Diagnostic} :
    x = .error d ↔ operator.kind.applies kinds = false ∧ operator.Rejects kinds d := by
  cases x with
  | ok v =>
      cases h with
      | applies happlies => simp [happlies]
  | error d' =>
      cases h with
      | rejects hnot hrejects =>
          rw [Except.error.injEq]
          constructor
          · rintro rfl
            exact ⟨hnot, hrejects⟩
          · rintro ⟨-, hd⟩
            exact hd.unique hrejects

lemma applyUnary_eq_error_iff {operator : Token} {v : Value} {d : Diagnostic} :
    operator.applyUnary v = .error d ↔
      operator.kind.applies [v.kind] = false ∧ operator.Rejects [v.kind] d := by
  have hdecides := operator.decides_inferUnary v.kind
  rw [← operator.kind_applyUnary] at hdecides
  exact hdecides.eq_error_iff

lemma applyBinary_eq_error_iff {operator : Token} {v w : Value} {d : Diagnostic} :
    operator.applyBinary v w = .error d ↔
      operator.kind.applies [v.kind, w.kind] = false ∧
        operator.Rejects [v.kind, w.kind] d := by
  have hdecides := operator.decides_inferBinary v.kind w.kind
  rw [← operator.kind_applyBinary] at hdecides
  exact hdecides.eq_error_iff

end Token

/-! ## Nodes -/

/-- An expression that has a value. -/
def Expr.Succeeds (e : Expr) : Prop :=
  ∃ v, e.eval = .ok v

/-- A node whose operands have values that its own operator rejects. -/
inductive Expr.Fails : Expr → Diagnostic → Prop where
  | unary {operator : Token} {operand : Expr} {v : Value} {d : Diagnostic}
      (hv : operand.eval = .ok v) (h : operator.kind.applies [v.kind] = false)
      (hd : operator.Rejects [v.kind] d) : Expr.Fails (.unary operator operand) d
  | binary {left : Expr} {operator : Token} {right : Expr} {v w : Value} {d : Diagnostic}
      (hv : left.eval = .ok v) (hw : right.eval = .ok w)
      (h : operator.kind.applies [v.kind, w.kind] = false)
      (hd : operator.Rejects [v.kind, w.kind] d) : Expr.Fails (.binary left operator right) d

namespace Expr

/-- The nodes of an expression, each behind those of its operands, the left ones first. -/
def postorder : Expr → List Expr
  | .literal v => [.literal v]
  | .grouping inner => inner.postorder ++ [.grouping inner]
  | .unary operator operand => operand.postorder ++ [.unary operator operand]
  | .binary left operator right =>
    left.postorder ++ right.postorder ++ [.binary left operator right]

/-- A node of the list fails with the diagnostic, and all nodes before it have values. -/
def FailsFirst (nodes : List Expr) (d : Diagnostic) : Prop :=
  ∃ before node after, nodes = before ++ node :: after ∧
    (∀ earlier ∈ before, earlier.Succeeds) ∧ node.Fails d

/-! ## One list of nodes behind another -/

lemma failsFirst_cons {e : Expr} {nodes : List Expr} {d : Diagnostic} :
    FailsFirst (e :: nodes) d ↔ e.Fails d ∨ e.Succeeds ∧ FailsFirst nodes d := by
  constructor
  · rintro ⟨before, node, after, hsplit, hbefore, hfails⟩
    cases before with
    | nil =>
        obtain ⟨rfl, -⟩ := List.cons.inj hsplit
        exact .inl hfails
    | cons first before =>
        obtain ⟨rfl, rfl⟩ := List.cons.inj hsplit
        rw [List.forall_mem_cons] at hbefore
        exact .inr ⟨hbefore.1, before, node, after, rfl, hbefore.2, hfails⟩
  · rintro (hfails | ⟨hsucceeds, before, node, after, rfl, hbefore, hfails⟩)
    · exact ⟨[], e, nodes, rfl, by simp, hfails⟩
    · refine ⟨e :: before, node, after, rfl, ?_, hfails⟩
      exact List.forall_mem_cons.mpr ⟨hsucceeds, hbefore⟩

lemma failsFirst_append {nodes nodes' : List Expr} {d : Diagnostic} :
    FailsFirst (nodes ++ nodes') d ↔
      FailsFirst nodes d ∨ (∀ node ∈ nodes, node.Succeeds) ∧ FailsFirst nodes' d := by
  induction nodes with
  | nil => simp [FailsFirst]
  | cons e nodes ih =>
      rw [List.cons_append, failsFirst_cons, failsFirst_cons, ih, List.forall_mem_cons]
      tauto

lemma failsFirst_singleton {e : Expr} {d : Diagnostic} : FailsFirst [e] d ↔ e.Fails d := by
  rw [failsFirst_cons]
  simp [FailsFirst]

/-! ## Evaluation -/

lemma self_mem_postorder (e : Expr) : e ∈ e.postorder := by
  cases e <;> simp [postorder]

/-- An expression has a value exactly if all its nodes have. -/
lemma forall_mem_postorder_iff (e : Expr) :
    (∀ node ∈ e.postorder, node.Succeeds) ↔ e.Succeeds := by
  refine ⟨fun h => h e e.self_mem_postorder, fun h => ?_⟩
  induction e with
  | literal v => simpa [postorder] using h
  | grouping inner ih =>
      simp only [postorder, List.forall_mem_append, List.forall_mem_singleton]
      exact ⟨ih h, h⟩
  | unary operator operand ih =>
      simp only [postorder, List.forall_mem_append, List.forall_mem_singleton]
      refine ⟨ih ?_, h⟩
      obtain ⟨v, hv⟩ := h
      obtain ⟨w, hw, -⟩ := bind_eq_ok hv
      exact ⟨w, hw⟩
  | binary left operator right ihl ihr =>
      simp only [postorder, List.forall_mem_append, List.forall_mem_singleton]
      obtain ⟨v, hv⟩ := id h
      obtain ⟨l, hl, hv⟩ := bind_eq_ok hv
      obtain ⟨r, hr, -⟩ := bind_eq_ok hv
      exact ⟨⟨ihl ⟨l, hl⟩, ihr ⟨r, hr⟩⟩, h⟩

/-- A prefix operator fails in its operand or, behind it, in itself. -/
lemma eval_unary_eq_error_iff {operator : Token} {operand : Expr} {d : Diagnostic} :
    (Expr.unary operator operand).eval = .error d ↔ operand.eval = .error d ∨
      operand.Succeeds ∧ (Expr.unary operator operand).Fails d := by
  constructor
  · intro h
    rcases bind_eq_error h with h | ⟨v, hv, h⟩
    · exact .inl h
    · obtain ⟨hnot, hd⟩ := Token.applyUnary_eq_error_iff.mp h
      exact .inr ⟨⟨v, hv⟩, .unary hv hnot hd⟩
  · rintro (h | ⟨-, hfails⟩)
    · rw [eval, h]
      rfl
    · cases hfails with
      | unary hv hnot hd =>
          rw [eval, hv]
          exact Token.applyUnary_eq_error_iff.mpr ⟨hnot, hd⟩

/-- A binary operator fails in its left operand, behind that in the right one, or behind both in
itself. -/
lemma eval_binary_eq_error_iff {left : Expr} {operator : Token} {right : Expr} {d : Diagnostic} :
    (Expr.binary left operator right).eval = .error d ↔ left.eval = .error d ∨
      left.Succeeds ∧ (right.eval = .error d ∨
        right.Succeeds ∧ (Expr.binary left operator right).Fails d) := by
  constructor
  · intro h
    rcases bind_eq_error h with h | ⟨v, hv, h⟩
    · exact .inl h
    rcases bind_eq_error h with h | ⟨w, hw, h⟩
    · exact .inr ⟨⟨v, hv⟩, .inl h⟩
    · obtain ⟨hnot, hd⟩ := Token.applyBinary_eq_error_iff.mp h
      exact .inr ⟨⟨v, hv⟩, .inr ⟨⟨w, hw⟩, .binary hv hw hnot hd⟩⟩
  · rintro (h | ⟨⟨v, hv⟩, h | ⟨-, hfails⟩⟩)
    · rw [eval, h]
      rfl
    · rw [eval, hv, h]
      rfl
    · cases hfails with
      | binary hv hw hnot hd =>
          rw [eval, hv, hw]
          exact Token.applyBinary_eq_error_iff.mpr ⟨hnot, hd⟩

/-- **Evaluation reports the first failure in postorder, and at its own operator.**  It fails with a
diagnostic exactly if there is a node with an operator that does not apply to the values of its
operands, all nodes before it in postorder have values, and the diagnostic is what that operator
has against the kinds of these values, on its own line. -/
theorem eval_eq_error_iff_failsFirst (e : Expr) (d : Diagnostic) :
    e.eval = .error d ↔ FailsFirst e.postorder d := by
  induction e with
  | literal v =>
      rw [postorder, failsFirst_singleton]
      exact ⟨fun h => (nomatch h), fun h => (nomatch h)⟩
  | grouping inner ih =>
      have hnode : ¬ (Expr.grouping inner).Fails d := fun h => nomatch h
      rw [postorder, failsFirst_append, failsFirst_singleton, ← ih]
      simp only [hnode, and_false, or_false, eval]
  | unary operator operand ih =>
      rw [postorder, failsFirst_append, failsFirst_singleton, ← ih, forall_mem_postorder_iff]
      exact eval_unary_eq_error_iff
  | binary left operator right ihl ihr =>
      rw [postorder, List.append_assoc, failsFirst_append, failsFirst_append, failsFirst_singleton,
        ← ihl, ← ihr, forall_mem_postorder_iff, forall_mem_postorder_iff]
      exact eval_binary_eq_error_iff

/-- The comma is no operator, but its right operand stands before it in postorder. -/
example : (Expr.binary (.literal .nil) ⟨.comma, ",", none, 1⟩
    (.unary ⟨.bang, "!", none, 2⟩ (.literal .nil))).eval =
      .error ⟨.operandNotBool "!" "nil", 2⟩ := rfl

end Expr

end Reckon
