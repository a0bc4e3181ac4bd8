import Reckon.Proofs.Failures
import Reckon.Run

/-!
# A run fails in one stage

What is wrong with a source is found by scanning, by reading or by evaluation, and never by two of
them.

**Stages.**  `Fault.stage?` gives each fault the stage that finds it.  Two faults have none: an
operator that is no operator, and an operand that should have been a string.  No run comes to them.

**Legal expressions.**  Evaluation could still meet a node without an operator, since a tree may
hold any token.  A derived one does not (`Derives.legal`), and where every node has an operator,
evaluation fails only for the kind of an operand (`Expr.Legal.stage?_eq_of_eval`).
-/

namespace Reckon

open Rules (Level)

/-! ## Stages -/

/-- The stages of a run. -/
inductive Stage where
  | scanning
  | reading
  | evaluation
  deriving DecidableEq, Repr

/-- The stage that finds a fault, if one does. -/
def Fault.stage? : Fault → Option Stage
  | .unterminatedString | .unterminatedComment | .unexpectedCharacter _ => some .scanning
  | .unterminatedGrouping _ | .expectedExpression _ | .tooDeeplyNested _ => some .reading
  | .operandNotNumber .. | .operandNotBool .. => some .evaluation
  | .unsupportedOperator _ | .operandNotString .. => none

/-- The diagnostics are those of a run that fails in the stage.  Scanning finds any number of
faults, and the later stages one, where those before them found none. -/
def Stage.Finds (source : String) (ds : List Diagnostic) : Stage → Prop
  | .scanning => (∀ d ∈ ds, d.fault.stage? = some .scanning) ∧ ds = (scan source).diagnostics
  | .reading => (∃ d, ds = [d] ∧ d.fault.stage? = some .reading) ∧ (scan source).diagnostics = []
  | .evaluation => (∃ d, ds = [d] ∧ d.fault.stage? = some .evaluation) ∧
      (scan source).diagnostics = [] ∧ ∃ e, parse (scan source).tokens = .ok e

lemma Stage.Finds.stage?_eq {source : String} {ds : List Diagnostic} {stage : Stage}
    (h : stage.Finds source ds) : ∀ d ∈ ds, d.fault.stage? = some stage := by
  cases stage with
  | scanning => exact h.1
  | reading =>
      obtain ⟨⟨d, rfl, hd⟩, -⟩ := h
      exact List.forall_mem_singleton.mpr hd
  | evaluation =>
      obtain ⟨⟨d, rfl, hd⟩, -⟩ := h
      exact List.forall_mem_singleton.mpr hd

/-- Stages do not share faults, so the first diagnostic tells the stage. -/
lemma Stage.Finds.unique {source : String} {ds : List Diagnostic} (hds : ds ≠ [])
    {stage stage' : Stage} (h : stage.Finds source ds) (h' : stage'.Finds source ds) :
    stage' = stage := by
  obtain ⟨d, hd⟩ := List.exists_mem_of_ne_nil ds hds
  exact Option.some.inj ((h'.stage?_eq d hd).symm.trans (h.stage?_eq d hd))

/-! ## What each stage finds -/

lemma stage?_of_mem_diagnostics {source : String} {d : Diagnostic}
    (h : d ∈ (scan source).diagnostics) : d.fault.stage? = some .scanning := by
  simp only [scan, List.mem_filterMap, Located.diagnostic?, Option.map_eq_some_iff] at h
  obtain ⟨located, -, fault, hfault, rfl⟩ := h
  simp only [Segment.fault?] at hfault
  split at hfault <;> cases hfault <;> rfl

lemma Token.Blamed.stage?_eq {t : Token} {d : Diagnostic} (h : t.Blamed d) :
    d.fault.stage? = some .reading := by
  cases h <;> rfl

lemma stage?_of_parse_eq_error {source : String} {d : Diagnostic}
    (h : parse (scan source).tokens = .error d) : d.fault.stage? = some .reading := by
  -- the tokens of a source end with the end of the input, as the lemma wants them
  obtain ⟨t, -, hblamed⟩ := exists_of_parse_eq_error h
  exact hblamed.stage?_eq

/-! ## Legal expressions -/

/-- Every node of an expression has an operator with its number of operands. -/
def Expr.Legal : Expr → Prop
  | .literal _ => True
  | .grouping inner => inner.Legal
  | .unary operator operand => operator.kind ∈ [Token.Kind.minus, .bang] ∧ operand.Legal
  | .binary left operator right =>
    operator.kind ∈ Category.expression.operators ∧ left.Legal ∧ right.Legal

lemma Rules.Level.operators_subset (level : Level) :
    level.operators ⊆ Category.expression.operators := by
  cases level <;> decide

/-- Rules put operators of their own level into the nodes they build. -/
lemma Derives.legal {n : Category} {p : List Token} {e : Expr} (h : Derives n p e) : e.Legal := by
  induction h with
  | operand _ ih => exact ih
  | @binary level _ _ _ _ _ _ ho _ ihl ihr => exact ⟨level.operators_subset ho, ihl, ihr⟩
  | prefixed ho _ ih => exact ⟨ho, ih⟩
  | primary _ ih => exact ih
  | constant _ => trivial
  | carried _ _ => trivial
  | grouping _ _ _ ih => exact ih

lemma legal_of_parse_eq_ok {tokens : List Token} {e : Expr} (h : parse tokens = .ok e) :
    e.Legal := by
  obtain ⟨p, ⟨q, -, hder, -⟩, -⟩ := exists_heads_of_parse h
  exact hder.legal

lemma Token.stage?_of_mapError {t : Token} {x : Except Mismatch Value} {d : Diagnostic}
    (h : x.mapError t.mismatch = .error d) : d.fault.stage? = some .evaluation := by
  cases x with
  | ok v => cases h
  | error why =>
      obtain rfl := Except.error.inj h
      cases why <;> rfl

lemma Token.stage?_of_applyUnary {t : Token} {v : Value} {d : Diagnostic}
    (ht : t.kind ∈ [Token.Kind.minus, .bang]) (h : t.applyUnary v = .error d) :
    d.fault.stage? = some .evaluation := by
  have hop : ∀ kind ∈ [Token.Kind.minus, .bang], kind.unaryOp? ≠ none := by decide
  simp only [applyUnary] at h
  split at h
  · exact stage?_of_mapError h
  · rename_i hnone
    exact absurd hnone (hop _ ht)

lemma Token.stage?_of_applyBinary {t : Token} {v w : Value} {d : Diagnostic}
    (ht : t.kind ∈ Category.expression.operators) (h : t.applyBinary v w = .error d) :
    d.fault.stage? = some .evaluation := by
  simp only [applyBinary] at h
  split at h
  · exact stage?_of_mapError h
  · rename_i hnone
    exact absurd hnone ((Category.mem_operators_expression _).mp ht)

/-- A legal expression fails only for the kind of an operand. -/
lemma Expr.Legal.stage?_eq_of_eval {e : Expr} (hlegal : e.Legal) {d : Diagnostic}
    (h : e.eval = .error d) : d.fault.stage? = some .evaluation := by
  induction e with
  | literal v => cases h
  | grouping inner ih => exact ih hlegal h
  | unary operator operand ih =>
      obtain ⟨hop, hoperand⟩ := hlegal
      rcases bind_eq_error h with h | ⟨v, -, h⟩
      · exact ih hoperand h
      · exact Token.stage?_of_applyUnary hop h
  | binary left operator right ihl ihr =>
      obtain ⟨hop, hleft, hright⟩ := hlegal
      rcases bind_eq_error h with h | ⟨v, -, h⟩
      · exact ihl hleft h
      rcases bind_eq_error h with h | ⟨w, -, h⟩
      · exact ihr hright h
      · exact Token.stage?_of_applyBinary hop h

/-! ## Runs -/

/-- Each stage finds its own faults, and is reached only where those before it found none. -/
lemma exists_finds_of_run_eq_error {source : String} {ds : List Diagnostic}
    (h : run source = .error ds) : ds ≠ [] ∧ ∃ stage : Stage, stage.Finds source ds := by
  rcases run_eq_error h with ⟨rfl, hds⟩ | ⟨hscan, d, rfl, hparse | ⟨e, hparse, heval⟩⟩
  · exact ⟨hds, .scanning, fun d hd => stage?_of_mem_diagnostics hd, rfl⟩
  · exact ⟨by simp, .reading, ⟨d, rfl, stage?_of_parse_eq_error hparse⟩, hscan⟩
  · have hstage := (legal_of_parse_eq_ok hparse).stage?_eq_of_eval heval
    exact ⟨by simp, .evaluation, ⟨d, rfl, hstage⟩, hscan, e, hparse⟩

/-- **A run fails in one stage, and never for an operator that is none.**  Its diagnostics are all
that scanning finds, or one fault of reading, or one fault of evaluation, and only one of these.
Whatever the tokens are, what is parsed has an operator with the right number of operands in every
node, so its evaluation fails only for an operand that is no number or no truth value. -/
theorem run_fails_in_one_stage :
    (∀ source, (∃ v, run source = .ok v) ∨
      ∃ ds, run source = .error ds ∧ ds ≠ [] ∧ ∃! stage : Stage, stage.Finds source ds) ∧
    ∀ tokens e, parse tokens = .ok e →
      e.Legal ∧ ∀ d, e.eval = .error d → d.fault.stage? = some .evaluation := by
  refine ⟨fun source => ?_, fun tokens e hparse => ?_⟩
  · cases hrun : run source with
    | ok v => exact .inl ⟨v, rfl⟩
    | error ds =>
        obtain ⟨hds, stage, hfinds⟩ := exists_finds_of_run_eq_error hrun
        exact .inr ⟨ds, rfl, hds, stage, hfinds, fun _ h => hfinds.unique hds h⟩
  · have hlegal := legal_of_parse_eq_ok hparse
    exact ⟨hlegal, fun d heval => hlegal.stage?_eq_of_eval heval⟩

/-- Tokens that no source has: the minus sign is not spelled as one, and behind an end of the input
stands an operator. -/
def misspelled : List Token :=
  [⟨.minus, "?", none, 7⟩, ⟨.keyword .trueWord, "true", some .nil, 3⟩, Token.endAt 0,
    ⟨.plus, "+", none, 1⟩]

/-- They are parsed, and what is wrong is the operand and not the operator. -/
theorem eval_misspelled :
    ∃ e, parse misspelled = .ok e ∧ e.Legal ∧
      e.eval = .error ⟨.operandNotNumber "?" "bool", 7⟩ := by
  have hder : Derives .expression (misspelled.take 2)
      (.unary ⟨.minus, "?", none, 7⟩ (.literal (.bool true))) :=
    .operand (.operand (.operand (.operand (.prefixed (by simp) (.primary (.constant rfl))))))
  have hheads : Heads misspelled (misspelled.take 2) _ := ⟨[], by decide, hder, by simp⟩
  have hparse := hheads.parse_eq_ok (by decide)
  exact ⟨_, hparse, (run_fails_in_one_stage.2 _ _ hparse).1, rfl⟩

end Reckon
