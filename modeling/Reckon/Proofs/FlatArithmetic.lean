import Reckon.Proofs.Written

/-!
# Arithmetic without parentheses

Numbers with the four operators of arithmetic between them can be worked out in one pass from left
to right: a running product that the next `*` or `/` goes on with, and behind it a running sum that
the product is added to, or subtracted from, at the next `+` or `-`.  Running the source builds a
tree of two levels instead, and evaluates it.  Both come to the same number, with the same
operations in the same order.

**One pass.**  `Tally` is the state of the pass, with one step for an operator and a number.

**The tree.**  `Tally.Covers` says which tree the tokens of a pass stand for: the running product is
a product, and if there is a running sum, the tokens before the last `+` or `-` are a sum.  A step
of the pass is a step of the tree (`Tally.Covers.step`), which gets at most one level deeper.

**Running.**  All the tokens are a sum, so the source has the value of the pass, or is refused for
its depth, and that needs more than a hundred operators (`Flat.run_flat`).
-/

namespace Reckon

open Rules (Level)

/-! ## One pass -/

/-- An operator of arithmetic. -/
inductive Arithmetic where
  | add
  | subtract
  | multiply
  | divide
  deriving DecidableEq, Repr

namespace Arithmetic

/-- An operator of arithmetic among all binary operators. -/
def op : Arithmetic → BinaryOp
  | .add => .add
  | .subtract => .subtract
  | .multiply => .multiply
  | .divide => .divide

/-- The number that an operator makes of two numbers. -/
def apply : Arithmetic → Float → Float → Float
  | .add, x, y => x + y
  | .subtract, x, y => x - y
  | .multiply, x, y => x * y
  | .divide, x, y => x / y

end Arithmetic

/-- The state of one pass: the running sum, if there is one yet, whether the running product will be
added to it or subtracted from it, and the running product. -/
structure Tally where
  total : Option Float
  pending : Arithmetic
  current : Float

namespace Tally

/-- The running sum with the running product in it. -/
def settled (t : Tally) : Float :=
  match t.total with
  | none => t.current
  | some total => if t.pending = .add then total + t.current else total - t.current

/-- Goes on with an operator and a number. -/
def step (t : Tally) (op : Arithmetic) (x : Float) : Tally :=
  match op with
  | .multiply => { t with current := t.current * x }
  | .divide => { t with current := t.current / x }
  | _ => ⟨some t.settled, op, x⟩

/-- Goes on with operators and numbers, one after the other. -/
def steps (t : Tally) : List (Arithmetic × Numeral) → Tally
  | [] => t
  | (op, n) :: rest => (t.step op n.value).steps rest

end Tally

/-- A number, and behind it any number of operators, each with a number. -/
structure Flat where
  first : Numeral
  rest : List (Arithmetic × Numeral)

namespace Flat

/-- What stands behind the first number, with single blanks between. -/
def tail : List (Arithmetic × Numeral) → List Char
  | [] => []
  | (op, n) :: rest => ' ' :: (op.op.symbol.1 ++ ' ' :: (n.text ++ tail rest))

/-- The source of flat arithmetic. -/
def source (f : Flat) : String :=
  String.ofList (f.first.text ++ tail f.rest)

/-- The number that one pass comes to. -/
def value (f : Flat) : Float :=
  (Tally.steps ⟨none, .add, f.first.value⟩ f.rest).settled

end Flat

/-! ## The tree -/

/-- An operator of arithmetic on expressions that are numbers. -/
lemma Arithmetic.eval_binary (op : Arithmetic) {l r : Expr} {operator : Token} {x y : Float}
    (hl : l.eval = .ok (.number x)) (hr : r.eval = .ok (.number y))
    (ho : operator.kind = op.op.symbol.2) :
    (Expr.binary l operator r).eval = .ok (.number (op.apply x y)) := by
  have hkind : operator.kind.binaryOp? = some op.op := by
    rw [ho]
    cases op <;> rfl
  have happly : operator.applyBinary (.number x) (.number y) = .ok (.number (op.apply x y)) := by
    simp only [Token.applyBinary, hkind]
    cases op <;> rfl
  simp only [Expr.eval, hl, hr]
  exact happly

namespace Tally

/-- The tokens of a pass and the tree that they stand for. -/
inductive Covers : Tally → List Token → Expr → Prop where
  | product {pending : Arithmetic} {x : Float} {p : List Token} {e : Expr}
      (h : Derives (.level .factor) p e) (hx : e.eval = .ok (.number x)) :
      Covers ⟨none, pending, x⟩ p e
  | sum {pending : Arithmetic} {total x : Float} {p q : List Token} {operator : Token} {l r : Expr}
      (hl : Derives (.level .term) p l) (htotal : l.eval = .ok (.number total))
      (ho : operator.kind = pending.op.symbol.2) (hterm : pending.op.level = .term)
      (hr : Derives (.level .factor) q r) (hx : r.eval = .ok (.number x)) :
      Covers ⟨some total, pending, x⟩ (p ++ operator :: q) (.binary l operator r)

/-- The tokens of a pass are a sum, and its value is that of the pass. -/
lemma Covers.settled {t : Tally} {p : List Token} {e : Expr} (h : t.Covers p e) :
    Derives (.level .term) p e ∧ e.eval = .ok (.number t.settled) := by
  cases h with
  | product h hx => exact ⟨.operand h, hx⟩
  | @sum pending total x p q operator l r hl htotal ho hterm hr hx =>
      have hop : operator.kind ∈ Level.operators .term := by
        rw [ho, ← hterm]
        exact pending.op.symbol_mem_level
      refine ⟨hl.binary hop hr, ?_⟩
      rw [pending.eval_binary htotal hx ho]
      cases pending with
      | add => rfl
      | subtract => rfl
      | multiply => cases hterm
      | divide => cases hterm

/-- The last product of a pass goes on with an operator of its level. -/
lemma Covers.factor {t : Tally} {p : List Token} {e : Expr} (h : t.Covers p e) {op : Arithmetic}
    (hfactor : op.op.level = .factor) {operator number : Token}
    (ho : operator.kind = op.op.symbol.2) {y : Float}
    (hy : Derives .unary [number] (.literal (.number y))) :
    ∃ e', Covers { t with current := op.apply t.current y } (p ++ [operator, number]) e' ∧
      e'.depth ≤ e.depth + 1 := by
  have hop : operator.kind ∈ Level.operators .factor := by
    rw [ho, ← hfactor]
    exact op.op.symbol_mem_level
  cases h with
  | @product pending x p e h hx =>
      refine ⟨_, .product (h.binary hop hy) (op.eval_binary hx rfl ho), ?_⟩
      simp only [Expr.depth]
      omega
  | @sum pending total x p q before l r hl htotal hb hterm hr hx =>
      have hlonger := Covers.sum hl htotal hb hterm (hr.binary hop hy) (op.eval_binary hx rfl ho)
      refine ⟨_, by simpa using hlonger, ?_⟩
      simp only [Expr.depth]
      omega

/-- **One step of the pass is one step of the tree**, which gets at most one level deeper, and does
so if the running product goes into the sum. -/
lemma Covers.step {t : Tally} {p : List Token} {e : Expr} (h : t.Covers p e) (op : Arithmetic)
    {operator number : Token} (ho : operator.kind = op.op.symbol.2) {y : Float}
    (hk : number.kind = .number) (hy : number.literal = some (.number y)) :
    ∃ e', (t.step op y).Covers (p ++ [operator, number]) e' ∧ e'.depth ≤ e.depth + 1 ∧
      (op.op.level = .term → e'.depth = e.depth + 1) := by
  have hnumber : Derives .unary [number] (.literal (.number y)) :=
    .primary (.carried (by simp [hk]) hy)
  have hterm : op.op.level = .term →
      Covers ⟨some t.settled, op, y⟩ (p ++ [operator, number])
        (.binary e operator (.literal (.number y))) := by
    intro hlevel
    obtain ⟨hder, heval⟩ := h.settled
    exact .sum hder heval ho hlevel (.operand hnumber) rfl
  have hdepth : (Expr.binary e operator (.literal (.number y))).depth = e.depth + 1 := by
    simp only [Expr.depth]
    omega
  have hfactor : op.op.level = .factor → ∃ e',
      Covers { t with current := op.apply t.current y } (p ++ [operator, number]) e' ∧
        e'.depth ≤ e.depth + 1 := fun hlevel => h.factor hlevel ho hnumber
  cases op with
  | add => exact ⟨_, hterm rfl, hdepth.le, fun _ => hdepth⟩
  | subtract => exact ⟨_, hterm rfl, hdepth.le, fun _ => hdepth⟩
  | multiply =>
      obtain ⟨e', hcovers, hle⟩ := hfactor rfl
      exact ⟨e', hcovers, hle, fun hlevel => absurd hlevel (by decide)⟩
  | divide =>
      obtain ⟨e', hcovers, hle⟩ := hfactor rfl
      exact ⟨e', hcovers, hle, fun hlevel => absurd hlevel (by decide)⟩

end Tally

/-! ## Scanning -/

namespace Flat

/-- The pieces of what stands behind the first number. -/
def pieces : List (Arithmetic × Numeral) → List Segment
  | [] => []
  | (op, n) :: rest =>
    ⟨.blank, [' ']⟩ :: ⟨.symbol op.op.symbol.2, op.op.symbol.1⟩ :: ⟨.blank, [' ']⟩ ::
      ⟨.number, n.text⟩ :: pieces rest

lemma delimits_tail (rest : List (Arithmetic × Numeral)) : Delimits (tail rest) := by
  cases rest <;> simp [Delimits, tail]

lemma segments_tail (rest : List (Arithmetic × Numeral)) :
    segments (tail rest) = pieces rest := by
  induction rest with
  | nil => exact segments_nil
  | cons next rest ih =>
      obtain ⟨op, n⟩ := next
      have hspaced : Delimits (' ' :: (n.text ++ tail rest)) := by simp [Delimits]
      rw [tail, segments_space, segments_symbol op.op.symbol_mem hspaced.not_growsSymbol,
        segments_space, segments_literal n.lexeme (by simp) rfl (delimits_tail rest), ih, pieces]

lemma fault?_of_mem_pieces (rest : List (Arithmetic × Numeral)) :
    ∀ piece ∈ pieces rest, piece.fault? = none := by
  induction rest with
  | nil => simp [pieces]
  | cons next rest ih => simpa [pieces, Segment.fault?] using ih

/-- What scanning makes of flat arithmetic. -/
lemma scan_source (f : Flat) :
    ∃ line, scan f.source =
      ⟨tokensFrom 1 (⟨.number, f.first.text⟩ :: pieces f.rest) ++ [Token.endAt line], []⟩ := by
  have hpieces : segments (f.first.text ++ tail f.rest) =
      ⟨.number, f.first.text⟩ :: pieces f.rest := by
    rw [segments_literal f.first.lexeme (by simp) rfl (delimits_tail f.rest), segments_tail]
  refine ⟨_, scan_of_segments hpieces ?_⟩
  exact List.forall_mem_cons.mpr ⟨rfl, fault?_of_mem_pieces f.rest⟩

/-- The token of a numeral. -/
lemma tokensFrom_numeral (line : Nat) (n : Numeral) (rest : List Segment) :
    ∃ number below, tokensFrom line (⟨.number, n.text⟩ :: rest) =
      number :: tokensFrom below rest ∧ number.kind = .number ∧
      number.literal = some (.number n.value) := by
  refine ⟨_, _, by rw [tokensFrom, locate_cons]; rfl, rfl, ?_⟩
  show some (Value.number (Segment.decimal n.text).toFloat) = some (.number n.value)
  rw [n.decimal_text, Numeral.value]

/-- **All steps of the pass.**  Each makes the tree at most one level deeper, and if all of them are
sums and differences, each does. -/
lemma covers_steps (rest : List (Arithmetic × Numeral)) (line : Nat) {t : Tally} {p : List Token}
    {e : Expr} (h : t.Covers p e) :
    ∃ e', (t.steps rest).Covers (p ++ tokensFrom line (pieces rest)) e' ∧
      e'.depth ≤ e.depth + rest.length ∧
      ((∀ next ∈ rest, next.1.op.level = .term) → e'.depth = e.depth + rest.length) := by
  induction rest generalizing line t p e with
  | nil =>
      have hcovers : (t.steps []).Covers (p ++ tokensFrom line (pieces [])) e := by
        simpa [Tally.steps, pieces, tokensFrom] using h
      exact ⟨e, hcovers, Nat.le_refl _, fun _ => rfl⟩
  | cons next rest ih =>
      obtain ⟨op, n⟩ := next
      rw [pieces, tokensFrom_blank, tokensFrom_symbol, tokensFrom_blank]
      obtain ⟨number, below, htokens, hk, hliteral⟩ :=
        tokensFrom_numeral (line + Text.lineFeeds op.op.symbol.1) n (pieces rest)
      have hoperator : (Token.ofSymbol op.op.symbol
          (line + Text.lineFeeds op.op.symbol.1)).kind = op.op.symbol.2 := rfl
      obtain ⟨e', hstep, hle, heq⟩ := h.step op hoperator hk hliteral
      obtain ⟨e'', hsteps, hle', heq'⟩ := ih below hstep
      rw [htokens]
      refine ⟨e'', by simpa [Tally.steps] using hsteps, ?_, fun hterm => ?_⟩
      · rw [List.length_cons]
        omega
      · have hrest := heq' fun next hnext => hterm next (List.mem_cons_of_mem _ hnext)
        have hfirst := heq (hterm (op, n) List.mem_cons_self)
        rw [List.length_cons]
        omega

/-! ## Running -/

/-- The tokens of flat arithmetic are one expression, whose value is that of the pass. -/
lemma heads (f : Flat) :
    ∃ tokens p e, scan f.source = ⟨tokens, []⟩ ∧ Heads tokens p e ∧
      e.eval = .ok (.number f.value) ∧ e.depth ≤ f.rest.length ∧
      ((∀ next ∈ f.rest, next.1.op.level = .term) → e.depth = f.rest.length) := by
  obtain ⟨line, hscan⟩ := f.scan_source
  obtain ⟨number, below, htokens, hk, hliteral⟩ := tokensFrom_numeral 1 f.first (pieces f.rest)
  have hfirst : Derives (.level .factor) [number] (.literal (.number f.first.value)) :=
    .operand (.primary (.carried (by simp [hk]) hliteral))
  have hcovers : Tally.Covers ⟨none, .add, f.first.value⟩ [number]
      (.literal (.number f.first.value)) := .product hfirst rfl
  obtain ⟨e, hsteps, hle, heq⟩ := covers_steps f.rest below hcovers
  obtain ⟨hder, heval⟩ := hsteps.settled
  simp only [Expr.depth, Nat.zero_add] at hle heq
  rw [htokens] at hscan
  refine ⟨_, _, e, hscan, ⟨[], ?_, hder.expression_of_level, by simp⟩, heval, hle, heq⟩
  rw [← List.singleton_append, beforeEnd_append hder.isEnd_eq_false]
  rfl

/-- **Flat arithmetic follows precedence.**  If the source has a value, it is the number that one
pass comes to.  If it has none, then it is refused for its depth and for nothing else, and with at
most a hundred operators it never is. -/
theorem run_flat (f : Flat) :
    (∀ v, run f.source = .ok v → v = .number f.value) ∧
    (∀ ds, run f.source = .error ds → ∃ line, ds = [⟨.tooDeeplyNested maxDepth, line⟩]) ∧
    (f.rest.length ≤ 100 → ∃ v, run f.source = .ok v) := by
  obtain ⟨tokens, p, e, hscan, hheads, heval, hdepth, -⟩ := f.heads
  have hfits : e.depth ≤ maxDepth → run f.source = .ok (.number f.value) := by
    intro hle
    rw [hheads.run_eq hscan hle, heval]
    rfl
  refine ⟨fun v hv => ?_, fun ds hds => ?_, fun hle => ⟨_, hfits (Nat.le_trans hdepth hle)⟩⟩
  · rcases Nat.lt_or_ge maxDepth e.depth with hlt | hle
    · obtain ⟨line, hrun⟩ := hheads.run_eq_tooDeep hscan hlt
      simp [hrun] at hv
    · simpa [hfits hle] using hv.symm
  · rcases Nat.lt_or_ge maxDepth e.depth with hlt | hle
    · obtain ⟨line, hrun⟩ := hheads.run_eq_tooDeep hscan hlt
      exact ⟨line, by simpa [hrun] using hds.symm⟩
    · simp [hfits hle] at hds

/-- The limit is a hundred operators, if no operator binds tighter than another. -/
theorem run_sum_eq_error {f : Flat} (hterm : ∀ next ∈ f.rest, next.1.op.level = .term)
    (h : 100 < f.rest.length) : ∃ ds, run f.source = .error ds := by
  obtain ⟨tokens, p, e, hscan, hheads, -, -, hdepth⟩ := f.heads
  obtain ⟨line, hrun⟩ := hheads.run_eq_tooDeep hscan (by rw [hdepth hterm, maxDepth]; exact h)
  exact ⟨_, hrun⟩

/-- A digit as a numeral. -/
def digit (c : Char) (h : c.isDigit = true) : Numeral :=
  ⟨[c], [], by simp, by simpa using h, by simp⟩

/-- A sum with a product in it. -/
def mixed : Flat :=
  ⟨digit '8' rfl, [(.subtract, digit '2' rfl), (.multiply, digit '3' rfl), (.divide, digit '4' rfl),
    (.add, digit '1' rfl)]⟩

/-- A number to which a number is added again and again. -/
def ones (k : Nat) : Flat :=
  ⟨digit '1' rfl, List.replicate k (.add, digit '1' rfl)⟩

example : mixed.value = (digit '8' rfl).value -
    (digit '2' rfl).value * (digit '3' rfl).value / (digit '4' rfl).value + (digit '1' rfl).value :=
  rfl

/-- A mixed sum has the value of the pass, and a sum of a hundred and two numbers is too deep. -/
theorem run_mixed :
    run "8 - 2 * 3 / 4 + 1" = .ok (.number mixed.value) ∧
    ∃ line, run (ones 101).source = .error [⟨.tooDeeplyNested maxDepth, line⟩] := by
  have hsource : mixed.source = "8 - 2 * 3 / 4 + 1" := by decide
  obtain ⟨v, hv⟩ := (run_flat mixed).2.2 (by decide)
  have hmixed : run mixed.source = .ok (.number mixed.value) := by
    rw [hv, (run_flat mixed).1 v hv]
  have hterm : ∀ next ∈ (ones 101).rest, next.1.op.level = .term := by
    intro next hnext
    obtain rfl := List.eq_of_mem_replicate hnext
    rfl
  obtain ⟨ds, hds⟩ := run_sum_eq_error hterm (by simp [ones])
  obtain ⟨line, rfl⟩ := (run_flat (ones 101)).2.1 ds hds
  exact ⟨hsource ▸ hmixed, line, hds⟩

end Flat

end Reckon
