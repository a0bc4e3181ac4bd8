import Reckon.Parser
import Reckon.Proofs.Grammar
import Reckon.Session

/-!
# Reading accepts the grammar, up to its limits

The rules of the parser against the derivations of the grammar, in both directions.

**Soundness.**  `Recognizes n reader` says that whatever the reader takes off a stream is an
expression of category `n`, followed by no operator that would extend it, and not too deep.  One
lemma for each way in which rules are built carries it from the operands to the whole, and the
recursion on the room closes the circle: `recognizes_read`.

**Completeness.**  `Within room e outcome result` says what reading comes to where the grammar
derives `e`: the outcome, if `e` fits into the room and under the depth limit, and a refusal for
its depth if not.  Nothing else can go wrong, since up to the refusal every token is one that the
derivation accounts for: `Derives.reads`.

Together they say that reading succeeds exactly on the derivable expressions that keep the limits.
A source whose text has no fault then runs as the expression at the head of its tokens evaluates
(`Heads.run_eq`).
-/

namespace Reckon

open Rules (Level)

/-! ## Streams -/

namespace Stream

lemma current_eq_of_pending {s : Stream} {t : Token} {q : List Token} (h : s.pending = t :: q) :
    s.current = t := by
  simp [current, h]

/-- A token that is no end of the input is read off the front of a stream. -/
lemma advance_of_pending {s : Stream} {t : Token} {q : List Token} (h : s.pending = t :: q)
    (ht : t.isEnd = false) : s.advance = (t, s.withPending q) := by
  simp [advance, h, ht]

/-- If the current token is of a kind other than the end of the input, it is pending. -/
lemma pending_of_current {s : Stream} (h : s.current.isEnd = false) :
    ∃ q, s.pending = s.current :: q := by
  cases hp : s.pending with
  | nil => simp [current, hp, Token.isEnd, s.final_isEnd] at h
  | cons t q => exact ⟨q, by rw [current_eq_of_pending hp]⟩

lemma accept?_of_pending {s : Stream} {t : Token} {q : List Token} {kinds : List Token.Kind}
    (h : s.pending = t :: q) (ht : t.isEnd = false) (hk : t.kind ∈ kinds) :
    s.accept? kinds = some (t, s.withPending q) := by
  simp [accept?, atEnd, current_eq_of_pending h, ht, hk, advance_of_pending h ht]

/-- What is accepted is the first pending token. -/
lemma accept?_eq_some {s rest : Stream} {t : Token} {kinds : List Token.Kind}
    (h : s.accept? kinds = some (t, rest)) :
    ∃ q, s.pending = t :: q ∧ rest = s.withPending q ∧ t.kind ∈ kinds := by
  simp only [accept?, atEnd, Option.ite_none_right_eq_some, Bool.and_eq_true, Bool.not_eq_true',
    List.contains_iff_mem] at h
  obtain ⟨⟨hend, hk⟩, hadv⟩ := h
  obtain ⟨q, hq⟩ := pending_of_current hend
  rw [advance_of_pending hq hend, Option.some.injEq, Prod.mk.injEq] at hadv
  obtain ⟨rfl, rfl⟩ := hadv
  exact ⟨q, hq, rfl, hk⟩

/-- Nothing is accepted exactly if no token of the kinds is pending first. -/
lemma accept?_eq_none_iff {s : Stream} {kinds : List Token.Kind}
    (hkinds : Token.Kind.endOfInput ∉ kinds) :
    s.accept? kinds = none ↔ ∀ t ∈ s.pending.head?, t.kind ∉ kinds := by
  constructor
  · intro h t ht hk
    obtain ⟨q, hq⟩ := List.head?_eq_some_iff.mp ht
    simp [accept?_of_pending hq (Token.isEnd_eq_false_of_mem hk hkinds) hk] at h
  · intro h
    cases ha : s.accept? kinds with
    | none => rfl
    | some result =>
        obtain ⟨q, hq, -, hk⟩ := accept?_eq_some ha
        exact absurd hk (h result.1 (by simp [hq]))

end Stream

/-! ## Rules by category -/

/-- The rule that reads a category. -/
def Category.rule : Category → Rule
  | .level .equality => .equality
  | .level .comparison => .comparison
  | .level .term => .term
  | .level .factor => .factor
  | .unary => .unary
  | .primary => .primary

lemma Category.read_level (level : Level) (room : Nat) :
    (Category.level level).rule.read room = Rules.binary level (level.operand.rule.read room) := by
  cases level <;> rfl

/-- A level that is opened is closed again where reading succeeds. -/
lemma Rules.nested_eq_ok {deeper : Option Reader} {rule : Reader → Reader} {s : Stream}
    {result : Expr × Stream} (h : Rules.nested deeper rule s = .ok result) :
    ∃ unary ∈ deeper, rule unary s = .ok result := by
  cases deeper with
  | none => simp [Rules.nested] at h
  | some unary =>
      refine ⟨unary, rfl, ?_⟩
      simp only [Rules.nested] at h
      split at h
      · rename_i heq
        rw [heq, h]
      · simp at h

lemma Rules.node_eq_ok {t : Token} {e : Expr} {s : Stream} {result : Expr × Stream}
    (h : Rules.node t e s = .ok result) : result = (e, s) ∧ e.depth ≤ maxDepth := by
  simp only [Rules.node] at h
  split at h
  · simp at h
  · rename_i hdepth
    exact ⟨by simpa using h.symm, Nat.le_of_not_lt hdepth⟩

/-! ## Soundness -/

/-- Between two points of a stream stands an expression of the category that nothing behind it
would extend, and that is not too deep. -/
def Spans (n : Category) (e : Expr) (s rest : Stream) : Prop :=
  ∃ p q, s.pending = p ++ q ∧ rest = s.withPending q ∧ Derives n p e ∧ Stops n q ∧
    e.depth ≤ maxDepth

/-- Whatever the reader takes off a stream is an expression of the category. -/
def Recognizes (n : Category) (reader : Reader) : Prop :=
  ∀ ⦃s rest : Stream⦄ ⦃e : Expr⦄, reader s = .ok (e, rest) → Spans n e s rest

/-- A chain of operators extends its left operand.  The operand stops where the chain starts, and
each right operand stops where the chain goes on. -/
lemma Recognizes.chain {level : Level} {operand : Reader} (hop : Recognizes level.operand operand)
    {l : Expr} {s : Stream} (hs : Stops level.operand s.pending) (hl : l.depth ≤ maxDepth)
    {e : Expr} {rest : Stream} (h : Rules.chain level operand l s = .ok (e, rest)) :
    ∃ p q, s.pending = p ++ q ∧ rest = s.withPending q ∧ Extends level l p e ∧
      Stops (.level level) q ∧ e.depth ≤ maxDepth := by
  fun_induction Rules.chain level operand l s with
  | case1 l s hnone =>
      obtain ⟨rfl, rfl⟩ : l = e ∧ s = rest := by simpa using h
      have hlevel := (Stream.accept?_eq_none_iff level.endOfInput_not_mem).mp hnone
      exact ⟨[], s.pending, rfl, rfl, .done, Stops.level_iff.mpr ⟨hlevel, hs⟩, hl⟩
  | case2 => simp at h
  | case3 => simp at h
  | case4 l s operator behind hsome r after hr hdepth ih =>
      obtain ⟨q₁, hq₁, rfl, ho⟩ := Stream.accept?_eq_some hsome
      obtain ⟨p₂, q₂, hq₂, rfl, hder, hstop, -⟩ := hop hr
      obtain ⟨p₃, q₃, hq₃, rfl, hext, hstop₃, hd⟩ := ih hstop (Nat.le_of_not_lt hdepth) h
      have hpending : s.pending = (operator :: p₂ ++ p₃) ++ q₃ := by
        simp only [Stream.withPending] at hq₂ hq₃
        simp [hq₁, hq₂, hq₃]
      exact ⟨operator :: p₂ ++ p₃, q₃, hpending, rfl, .step ho hder hext, hstop₃, hd⟩

/-- A level over a reader of its operands. -/
lemma Recognizes.binary {level : Level} {operand : Reader}
    (hop : Recognizes level.operand operand) :
    Recognizes (.level level) (Rules.binary level operand) := by
  intro s rest e h
  simp only [Rules.binary] at h
  split at h
  · simp at h
  · rename_i l after hl
    obtain ⟨p₁, q₁, hq₁, rfl, hder, hstop, hd⟩ := hop hl
    obtain ⟨p₂, q₂, hq₂, rfl, hext, hstop₂, hd₂⟩ := hop.chain hstop hd h
    refine ⟨p₁ ++ p₂, q₂, ?_, rfl, hder.operand.extend hext, hstop₂, hd₂⟩
    simp only [Stream.withPending] at hq₂
    simp [hq₁, hq₂]

lemma Recognizes.factor {unary : Reader} (h : Recognizes .unary unary) :
    Recognizes (.level .factor) (Rules.factor unary) :=
  Recognizes.binary h

lemma Recognizes.term {unary : Reader} (h : Recognizes .unary unary) :
    Recognizes (.level .term) (Rules.term unary) :=
  Recognizes.binary h.factor

lemma Recognizes.comparison {unary : Reader} (h : Recognizes .unary unary) :
    Recognizes (.level .comparison) (Rules.comparison unary) :=
  Recognizes.binary h.term

lemma Recognizes.equality {unary : Reader} (h : Recognizes .unary unary) :
    Recognizes .expression (Rules.equality unary) :=
  Recognizes.binary h.comparison

/-- A literal is a single token. -/
lemma Derives.spans_literal {s : Stream} {v : Value}
    (h : Derives .primary [s.current] (.literal v)) :
    Spans .primary (.literal v) s s.advance.2 := by
  have hend : s.current.isEnd = false := h.isEnd_eq_false _ (by simp)
  obtain ⟨q, hq⟩ := Stream.pending_of_current hend
  refine ⟨[s.current], q, hq, by rw [Stream.advance_of_pending hq hend], h, ?_, ?_⟩
  · simp [Stops, Category.operators]
  · simp [Expr.depth]

lemma Recognizes.carried {s rest : Stream} {e : Expr}
    (hk : s.current.kind ∈ [Token.Kind.number, .string])
    (h : Rules.carried s = .ok (e, rest)) : Spans .primary e s rest := by
  have hend := Token.isEnd_eq_false_of_mem hk (by decide)
  obtain ⟨q, hq⟩ := Stream.pending_of_current hend
  have hadv := Stream.advance_of_pending hq hend
  simp only [Rules.carried, hadv] at h
  split at h
  · rename_i v hv
    obtain ⟨rfl, rfl⟩ : Expr.literal v = e ∧ s.withPending q = rest := by simpa using h
    have hspan := (Derives.carried hk hv).spans_literal
    rwa [hadv] at hspan
  · simp at h

/-- Parentheses around what a deeper level reads. -/
lemma Recognizes.grouping {deeper : Option Reader}
    (hdeeper : ∀ unary ∈ deeper, Recognizes .unary unary) {s rest : Stream} {e : Expr}
    (hk : s.current.kind = .leftParen) (h : Rules.grouping deeper s = .ok (e, rest)) :
    Spans .primary e s rest := by
  have hend : s.current.isEnd = false := by simp [Token.isEnd, hk]
  obtain ⟨q₁, hq₁⟩ := Stream.pending_of_current hend
  simp only [Rules.grouping, Stream.advance_of_pending hq₁ hend] at h
  split at h
  · simp at h
  · rename_i inner after hinner
    obtain ⟨unary, hunary, hread⟩ := Rules.nested_eq_ok hinner
    obtain ⟨p₂, q₂, hq₂, rfl, hder, -, -⟩ := (hdeeper unary hunary).equality hread
    split at h
    · simp at h
    · rename_i closing last hclose
      obtain ⟨q₃, hq₃, rfl, hc⟩ := Stream.accept?_eq_some hclose
      obtain ⟨hresult, hd⟩ := Rules.node_eq_ok h
      obtain ⟨rfl, rfl⟩ := Prod.mk.inj hresult
      have hder' := Derives.grouping hk hder (List.mem_singleton.mp hc)
      refine ⟨_, q₃, ?_, rfl, hder', by simp [Stops, Category.operators], hd⟩
      simp only [Stream.withPending] at hq₂ hq₃
      rw [hq₁, hq₂, hq₃]
      simp

lemma Recognizes.primary {deeper : Option Reader}
    (hdeeper : ∀ unary ∈ deeper, Recognizes .unary unary) :
    Recognizes .primary (Rules.primary deeper) := by
  intro s rest e h
  have hconst : ∀ v, s.current.kind.constant? = some v →
      Except.ok (ε := Stop) (Expr.literal v, s.advance.2) = .ok (e, rest) →
      Spans .primary e s rest := by
    intro v hv hok
    obtain ⟨rfl, rfl⟩ : Expr.literal v = e ∧ s.advance.2 = rest := by simpa using hok
    exact (Derives.constant hv).spans_literal
  simp only [Rules.primary] at h
  split at h
  · rename_i hk
    exact hconst _ (by rw [hk]; rfl) h
  · rename_i hk
    exact hconst _ (by rw [hk]; rfl) h
  · rename_i hk
    exact hconst _ (by rw [hk]; rfl) h
  · rename_i hk
    exact Recognizes.carried (by simp [hk]) h
  · rename_i hk
    exact Recognizes.carried (by simp [hk]) h
  · rename_i hk
    exact Recognizes.grouping hdeeper hk h
  · simp at h

lemma Recognizes.unary {deeper : Option Reader}
    (hdeeper : ∀ unary ∈ deeper, Recognizes .unary unary) :
    Recognizes .unary (Rules.unary deeper) := by
  intro s rest e h
  simp only [Rules.unary] at h
  split at h
  · obtain ⟨p, q, hq, rfl, hder, hstop, hd⟩ := Recognizes.primary hdeeper h
    exact ⟨p, q, hq, rfl, hder.primary, hstop, hd⟩
  · rename_i operator behind hop
    obtain ⟨q₁, hq₁, rfl, ho⟩ := Stream.accept?_eq_some hop
    split at h
    · simp at h
    · rename_i operand after hoperand
      obtain ⟨unary, hunary, hread⟩ := Rules.nested_eq_ok hoperand
      obtain ⟨p₂, q₂, hq₂, rfl, hder, hstop, -⟩ := hdeeper unary hunary hread
      obtain ⟨hresult, hd⟩ := Rules.node_eq_ok h
      obtain ⟨rfl, rfl⟩ := Prod.mk.inj hresult
      refine ⟨operator :: p₂, q₂, ?_, rfl, .prefixed ho hder, hstop, hd⟩
      simp only [Stream.withPending] at hq₂
      simp [hq₁, hq₂]

/-- The rule for prefix operators recognizes them with any room: one level of room more is one
more turn through the rules. -/
lemma recognizes_deeper (room : Nat) : ∀ unary ∈ Rules.deeper room, Recognizes .unary unary := by
  induction room with
  | zero => simp [Rules.deeper]
  | succ room ih =>
      intro unary hunary
      obtain rfl : Rules.unary (Rules.deeper room) = unary := by simpa [Rules.deeper] using hunary
      exact Recognizes.unary ih

/-- **Reading is sound.**  A rule takes off a stream only what is derivable in its category, all
that can be taken, and nothing too deep. -/
theorem recognizes_read (n : Category) (room : Nat) : Recognizes n (n.rule.read room) := by
  have hunary : Recognizes .unary (Rules.unary (Rules.deeper room)) :=
    Recognizes.unary (recognizes_deeper room)
  cases n with
  | level level =>
      cases level with
      | equality => exact hunary.equality
      | comparison => exact hunary.comparison
      | term => exact hunary.term
      | factor => exact hunary.factor
  | unary => exact hunary
  | primary => exact Recognizes.primary (recognizes_deeper room)

/-! ## The limits -/

/-- The greatest number of prefix operators and parentheses around one literal: the levels that
have to be open at once to read an expression. -/
def Expr.nesting : Expr → Nat
  | .literal _ => 0
  | .grouping inner => inner.nesting + 1
  | .unary _ operand => operand.nesting + 1
  | .binary left _ right => max left.nesting right.nesting

lemma Expr.nesting_le_depth (e : Expr) : e.nesting ≤ e.depth := by
  induction e with
  | literal v => simp [Expr.nesting, Expr.depth]
  | grouping inner ih => simpa [Expr.nesting, Expr.depth] using ih
  | unary operator operand ih => simpa [Expr.nesting, Expr.depth] using ih
  | binary left operator right ihl ihr =>
      simp only [Expr.nesting, Expr.depth]
      omega

/-- Whether an expression can be read with room for a number of levels. -/
def Expr.Fits (room : Nat) (e : Expr) : Prop :=
  e.nesting ≤ room ∧ e.depth ≤ maxDepth

lemma Expr.fits_maxDepth {e : Expr} : e.Fits maxDepth ↔ e.depth ≤ maxDepth :=
  ⟨fun h => h.2, fun h => ⟨Nat.le_trans e.nesting_le_depth h, h⟩⟩

lemma Expr.fits_literal (room : Nat) (v : Value) : (Expr.literal v).Fits room := by
  simp [Expr.Fits, Expr.nesting, Expr.depth]

lemma Expr.fits_binary {room : Nat} {l r : Expr} {operator : Token} :
    (Expr.binary l operator r).Fits room ↔
      l.Fits room ∧ r.Fits room ∧ (Expr.binary l operator r).depth ≤ maxDepth := by
  simp only [Expr.Fits, Expr.nesting, Expr.depth]
  omega

lemma Expr.not_fits_zero {e : Expr} (h : 0 < e.nesting) : ¬ e.Fits 0 := by
  simp only [Expr.Fits]
  omega

/-- What is under a node that opens a level has one level of room less. -/
lemma Expr.fits_succ {room : Nat} {e node : Expr} (hn : node.nesting = e.nesting + 1)
    (hd : node.depth = e.depth + 1) :
    node.Fits (room + 1) ↔ e.Fits room ∧ node.depth ≤ maxDepth := by
  simp only [Expr.Fits, hn, hd]
  omega

/-- Reading was given up because of the depth limit. -/
def TooDeep (result : Except Stop (Expr × Stream)) : Prop :=
  ∃ stop, result = .error stop ∧ stop.diagnostic.fault = .tooDeeplyNested maxDepth

/-- Reading comes to the outcome if the expression to be read fits, and to a refusal for its depth
if it does not. -/
def Within (room : Nat) (e : Expr) (outcome result : Except Stop (Expr × Stream)) : Prop :=
  (e.Fits room → result = outcome) ∧ (¬ e.Fits room → TooDeep result)

/-! ## Completeness -/

/-- A chain ends before a token that is no operator of its level. -/
lemma Rules.chain_of_stops {level : Level} {operand : Reader} {l : Expr} {s : Stream}
    (h : ∀ t ∈ s.pending.head?, t.kind ∉ level.operators) :
    Rules.chain level operand l s = .ok (l, s) := by
  rw [Rules.chain, (Stream.accept?_eq_none_iff level.endOfInput_not_mem).mpr h]

/-- A chain goes on behind an operator of its level and a right operand, up to the limit. -/
lemma Rules.chain_of_operator {level : Level} {operand : Reader} {l r : Expr} {s : Stream}
    {operator : Token} {q q' : List Token} (hs : s.pending = operator :: q)
    (hend : operator.isEnd = false) (ho : operator.kind ∈ level.operators)
    (hr : operand (s.withPending q) = .ok (r, s.withPending q')) :
    Rules.chain level operand l s =
      if maxDepth < (Expr.binary l operator r).depth then
        .error ⟨operator.tooDeep, s.withPending q', 0⟩
      else Rules.chain level operand (.binary l operator r) (s.withPending q') := by
  rw [Rules.chain, Stream.accept?_of_pending hs hend ho]
  simp only [hr]

lemma Rules.chain_of_tooDeep {level : Level} {operand : Reader} {l : Expr} {s : Stream}
    {operator : Token} {q : List Token} (hs : s.pending = operator :: q)
    (hend : operator.isEnd = false) (ho : operator.kind ∈ level.operators)
    (hr : TooDeep (operand (s.withPending q))) : TooDeep (Rules.chain level operand l s) := by
  obtain ⟨stop, hstop, hfault⟩ := hr
  refine ⟨stop, ?_, hfault⟩
  rw [Rules.chain, Stream.accept?_of_pending hs hend ho]
  simp only [hstop]

lemma Within.nested {room : Nat} {e : Expr} {rule : Reader → Reader} {s rest : Stream}
    (h : Within room e (.ok (e, rest)) (rule (Rules.unary (Rules.deeper room)) s)) :
    Within room e (.ok (e, rest)) (Rules.nested (Rules.deeper (room + 1)) rule s) := by
  refine ⟨fun hfit => ?_, fun hfit => ?_⟩
  · simp only [Rules.nested, Rules.deeper, h.1 hfit]
  · obtain ⟨stop, hstop, hfault⟩ := h.2 hfit
    exact ⟨{ stop with leftOpen := stop.leftOpen + 1 },
      by simp only [Rules.nested, Rules.deeper, hstop], hfault⟩

lemma tooDeep_nested_zero (rule : Reader → Reader) (s : Stream) :
    TooDeep (Rules.nested (Rules.deeper 0) rule s) :=
  ⟨⟨s.current.tooDeep, s, 0⟩, rfl, rfl⟩

lemma tooDeep_node {t : Token} {e : Expr} {s : Stream} (h : ¬ e.depth ≤ maxDepth) :
    TooDeep (Rules.node t e s) :=
  ⟨⟨t.tooDeep, s, 0⟩, by simp [Rules.node, Nat.lt_of_not_le h], rfl⟩

/-- What reading makes of a derivation.  At a level of binary operators it gets as far as the chain
that has read the derived tree so far, which may go on behind it. -/
def Reads : Category → List Token → Expr → Prop
  | .level level, p, e => ∀ (room : Nat) (s : Stream) (q : List Token), s.pending = p ++ q →
      Stops level.operand q →
      Within room e (Rules.chain level (level.operand.rule.read room) e (s.withPending q))
        ((Category.level level).rule.read room s)
  | n, p, e => ∀ (room : Nat) (s : Stream) (q : List Token), s.pending = p ++ q →
      Within room e (.ok (e, s.withPending q)) (n.rule.read room s)

/-- Where nothing can extend the derivation, reading ends behind it. -/
lemma Reads.within {n : Category} {p q : List Token} {e : Expr} {s : Stream} (h : Reads n p e)
    (hs : s.pending = p ++ q) (hq : Stops n q) (room : Nat) :
    Within room e (.ok (e, s.withPending q)) (n.rule.read room s) := by
  cases n with
  | level level =>
      obtain ⟨hlevel, hoperand⟩ := Stops.level_iff.mp hq
      have hchain : Rules.chain level (level.operand.rule.read room) e (s.withPending q)
          = .ok (e, s.withPending q) := Rules.chain_of_stops hlevel
      rw [← hchain]
      exact h room s q hs hoperand
  | unary => exact h room s q hs
  | primary => exact h room s q hs

lemma Reads.operand {level : Level} {p : List Token} {e : Expr} (h : Reads level.operand p e) :
    Reads (.level level) p e := by
  intro room s q hs hq
  have hwithin := h.within hs hq room
  rw [Category.read_level]
  refine ⟨fun hfit => ?_, fun hfit => ?_⟩
  · simp only [Rules.binary, hwithin.1 hfit]
  · obtain ⟨stop, hstop, hfault⟩ := hwithin.2 hfit
    exact ⟨stop, by simp only [Rules.binary, hstop], hfault⟩

/-- One more operator: the left operand brings reading to the chain, which then reads the operator
and its right operand. -/
lemma Reads.binary {level : Level} {p q : List Token} {operator : Token} {l r : Expr}
    (hl : Reads (.level level) p l) (ho : operator.kind ∈ level.operators)
    (hr : Reads level.operand q r) :
    Reads (.level level) (p ++ operator :: q) (.binary l operator r) := by
  intro room s q₂ hs hq₂
  have hend := Token.isEnd_eq_false_of_mem ho level.endOfInput_not_mem
  have hstop : Stops level.operand (operator :: (q ++ q₂)) := by
    intro t ht
    obtain rfl : operator = t := by simpa using ht
    exact Level.not_mem_operand_operators ho
  have hleft := hl room s (operator :: (q ++ q₂)) (by simpa using hs) hstop
  have hright := Reads.within (s := s.withPending (q ++ q₂)) hr rfl hq₂ room
  have hpending : (s.withPending (operator :: (q ++ q₂))).pending = operator :: (q ++ q₂) := rfl
  rw [Within, Expr.fits_binary]
  refine ⟨?_, ?_⟩
  · rintro ⟨hfl, hfr, hd⟩
    rw [hleft.1 hfl, Rules.chain_of_operator hpending hend ho (hright.1 hfr),
      if_neg (Nat.not_lt.mpr hd)]
    rfl
  · intro hfit
    by_cases hfl : l.Fits room
    · rw [hleft.1 hfl]
      by_cases hfr : r.Fits room
      · -- both operands fit, so the new node is what is too deep
        have hd : ¬ (Expr.binary l operator r).depth ≤ maxDepth := fun hd => hfit ⟨hfl, hfr, hd⟩
        rw [Rules.chain_of_operator hpending hend ho (hright.1 hfr), if_pos (Nat.lt_of_not_le hd)]
        exact ⟨_, rfl, rfl⟩
      · exact Rules.chain_of_tooDeep hpending hend ho (hright.2 hfr)
    · exact hleft.2 hfl

/-- A node over a level that is opened: reading it is reading what is under it, and then to check
the depth of the node. -/
lemma Within.succ {room : Nat} {e node : Expr} {inner outcome result : Except Stop (Expr × Stream)}
    {rest : Stream} (hn : node.nesting = e.nesting + 1) (hd : node.depth = e.depth + 1)
    (hinner : Within room e (.ok (e, rest)) inner)
    (hok : inner = .ok (e, rest) → node.depth ≤ maxDepth → result = outcome)
    (hdeep : inner = .ok (e, rest) → ¬ node.depth ≤ maxDepth → TooDeep result)
    (herror : TooDeep inner → TooDeep result) : Within (room + 1) node outcome result := by
  rw [Within, Expr.fits_succ hn hd]
  refine ⟨fun hfit => hok (hinner.1 hfit.1) hfit.2, fun hfit => ?_⟩
  by_cases he : e.Fits room
  · exact hdeep (hinner.1 he) fun hdepth => hfit ⟨he, hdepth⟩
  · exact herror (hinner.2 he)

/-- Without room no node that opens a level is read. -/
lemma Within.zero {node : Expr} {outcome result : Except Stop (Expr × Stream)}
    (hn : 0 < node.nesting) (h : TooDeep result) : Within 0 node outcome result :=
  ⟨fun hfit => absurd hfit (Expr.not_fits_zero hn), fun _ => h⟩

lemma Reads.prefixed {operator : Token} {p : List Token} {e : Expr}
    (ho : operator.kind ∈ [Token.Kind.minus, .bang]) (h : Reads .unary p e) :
    Reads .unary (operator :: p) (.unary operator e) := by
  intro room s q hs
  have haccept : s.accept? [.minus, .bang] = some (operator, s.withPending (p ++ q)) :=
    Stream.accept?_of_pending hs (Token.isEnd_eq_false_of_mem ho (by decide)) ho
  show Within _ _ _ (Rules.unary (Rules.deeper room) s)
  simp only [Rules.unary, haccept]
  cases room with
  | zero =>
      refine Within.zero (by simp [Expr.nesting]) ?_
      obtain ⟨stop, hstop, hfault⟩ := tooDeep_nested_zero id (s.withPending (p ++ q))
      exact ⟨stop, by simp only [hstop], hfault⟩
  | succ room =>
      have hinner : Within room e _ (Rules.nested (Rules.deeper (room + 1)) id _) :=
        Within.nested (h room (s.withPending (p ++ q)) q rfl)
      refine Within.succ rfl rfl hinner ?_ ?_ ?_
      · intro hread hd
        simp only [hread, Rules.node, if_neg (Nat.not_lt.mpr hd)]
        rfl
      · intro hread hd
        simpa only [hread] using tooDeep_node hd
      · rintro ⟨stop, hstop, hfault⟩
        exact ⟨stop, by simp only [hstop], hfault⟩

lemma Reads.primary {p : List Token} {e : Expr} (hhead : ∃ t rest, p = t :: rest ∧
    t.kind ∉ [Token.Kind.minus, .bang]) (h : Reads .primary p e) : Reads .unary p e := by
  intro room s q hs
  obtain ⟨t, rest, rfl, ht⟩ := hhead
  have haccept : s.accept? [.minus, .bang] = none := by
    refine (Stream.accept?_eq_none_iff (by decide)).mpr ?_
    simpa [hs] using ht
  show Within _ _ _ (Rules.unary (Rules.deeper room) s)
  simp only [Rules.unary, haccept]
  exact h room s q hs

lemma Reads.constant {t : Token} {v : Value} (hv : t.kind.constant? = some v) :
    Reads .primary [t] (.literal v) := by
  intro room s q hs
  have hend : t.isEnd = false := (Derives.constant hv).isEnd_eq_false t (by simp)
  refine ⟨fun _ => ?_, fun hfit => absurd (Expr.fits_literal room v) hfit⟩
  show Rules.primary (Rules.deeper room) s = _
  simp only [Rules.primary, Stream.current_eq_of_pending hs, Stream.advance_of_pending hs hend]
  unfold Token.Kind.constant? at hv
  split at hv <;> simp_all

lemma Reads.carried {t : Token} {v : Value} (hk : t.kind ∈ [Token.Kind.number, .string])
    (hv : t.literal = some v) : Reads .primary [t] (.literal v) := by
  intro room s q hs
  have hend := Token.isEnd_eq_false_of_mem hk (by decide)
  refine ⟨fun _ => ?_, fun hfit => absurd (Expr.fits_literal room v) hfit⟩
  show Rules.primary (Rules.deeper room) s = _
  simp only [List.mem_cons, List.not_mem_nil, or_false] at hk
  rcases hk with hk | hk <;>
    simp only [Rules.primary, Rules.carried, Stream.current_eq_of_pending hs, hk,
      Stream.advance_of_pending hs hend, hv] <;>
    rfl

lemma Reads.grouping {opening closing : Token} {p : List Token} {e : Expr}
    (ho : opening.kind = .leftParen) (h : Reads .expression p e)
    (hc : closing.kind = .rightParen) :
    Reads .primary (opening :: p ++ [closing]) (.grouping e) := by
  intro room s q hs
  have hpending : s.pending = opening :: (p ++ closing :: q) := by simpa using hs
  have hadvance := Stream.advance_of_pending hpending (by simp [Token.isEnd, ho])
  have hstop : Stops .expression (closing :: q) := by simp [Stops, hc, Category.operators]
  have hclose : (s.withPending (closing :: q)).accept? [.rightParen]
      = some (closing, s.withPending q) :=
    Stream.accept?_of_pending rfl (by simp [Token.isEnd, hc]) (by simp [hc])
  show Within _ _ _ (Rules.primary (Rules.deeper room) s)
  simp only [Rules.primary, Stream.current_eq_of_pending hpending, ho, Rules.grouping, hadvance]
  cases room with
  | zero =>
      refine Within.zero (by simp [Expr.nesting]) ?_
      obtain ⟨stop, hstop, hfault⟩ :=
        tooDeep_nested_zero Rules.equality (s.withPending (p ++ closing :: q))
      exact ⟨stop, by simp only [hstop], hfault⟩
  | succ room =>
      have hinner : Within room e _ (Rules.nested (Rules.deeper (room + 1)) Rules.equality _) :=
        Within.nested (Reads.within (s := s.withPending (p ++ closing :: q)) h rfl hstop room)
      refine Within.succ rfl rfl hinner ?_ ?_ ?_
      · intro hread hd
        simp only [hread]
        simp only [Stream.withPending] at hclose ⊢
        simp only [hclose, Rules.node, if_neg (Nat.not_lt.mpr hd)]
      · intro hread hd
        simp only [hread]
        simp only [Stream.withPending] at hclose ⊢
        simpa only [hclose] using tooDeep_node hd
      · rintro ⟨stop, hstop, hfault⟩
        exact ⟨stop, by simp only [hstop], hfault⟩

/-- **Reading is complete.**  Every derivation is read by its rule. -/
theorem Derives.reads {n : Category} {p : List Token} {e : Expr} (h : Derives n p e) :
    Reads n p e := by
  induction h with
  | operand _ ih => exact Reads.operand ih
  | binary _ ho _ ihl ihr => exact Reads.binary ihl ho ihr
  | prefixed ho _ ih => exact Reads.prefixed ho ih
  | primary h ih => exact Reads.primary h.head_primary ih
  | constant hv => exact Reads.constant hv
  | carried hk hv => exact Reads.carried hk hv
  | grouping ho _ hc ih => exact Reads.grouping ho ih hc

/-! ## Lists of tokens -/

/-- The tokens of a list before its first end of the input. -/
def beforeEnd (tokens : List Token) : List Token :=
  tokens.takeWhile (!·.isEnd)

/-- The first tokens of a list, and none behind its first end of the input, are an expression, and
no binary operator follows them. -/
def Heads (tokens p : List Token) (e : Expr) : Prop :=
  ∃ q, beforeEnd tokens = p ++ q ∧ Derives .expression p e ∧
    ∀ t ∈ q.head?, t.kind.binaryOp? = none

/-- The end of the input that a stream puts behind its tokens does not change what is before. -/
lemma Stream.beforeEnd_ofTokens (tokens : List Token) :
    beforeEnd (Stream.ofTokens tokens).pending = beforeEnd tokens := by
  simp only [Stream.ofTokens]
  split
  · rename_i hlast
    simp [List.getLast?_eq_none_iff.mp hlast]
  · rename_i last hlast
    split
    · rename_i hend
      obtain ⟨front, rfl⟩ := List.getLast?_eq_some_iff.mp hlast
      have hlast' : beforeEnd [last] = [] := by simp [beforeEnd, Token.isEnd, hend]
      rw [List.dropLast_concat, beforeEnd, beforeEnd, List.takeWhile_append]
      split
      · rename_i hlen
        rw [← beforeEnd, ← beforeEnd, hlast', List.append_nil]
        exact (List.takeWhile_prefix _).eq_of_length hlen
      · rfl
    · rfl

lemma beforeEnd_append {p q : List Token} (hp : ∀ t ∈ p, t.isEnd = false) :
    beforeEnd (p ++ q) = p ++ beforeEnd q := by
  rw [beforeEnd, List.takeWhile_append_of_pos]
  · rfl
  · intro t ht
    simp [hp t ht]

/-- Whether an expression ends before some tokens can be seen from those before their end. -/
lemma stops_expression_iff {q : List Token} :
    Stops .expression q ↔ ∀ t ∈ (beforeEnd q).head?, t.kind.binaryOp? = none := by
  cases q with
  | nil => simp [Stops, beforeEnd]
  | cons t q =>
      by_cases hend : t.isEnd
      · have hk : t.kind = .endOfInput := by simpa [Token.isEnd] using hend
        simp [Stops, beforeEnd, hend, hk, Category.operators]
      · simp [Stops, beforeEnd, hend, Category.mem_operators_expression]

/-- The same of the stream that the list becomes. -/
lemma heads_iff {tokens p : List Token} {e : Expr} :
    Heads tokens p e ↔ ∃ q, (Stream.ofTokens tokens).pending = p ++ q ∧
      Derives .expression p e ∧ Stops .expression q := by
  rw [Heads, ← Stream.beforeEnd_ofTokens]
  constructor
  · rintro ⟨q, hq, hder, hstop⟩
    have hp : p <+: (Stream.ofTokens tokens).pending :=
      List.IsPrefix.trans ⟨q, hq.symm⟩ (List.takeWhile_prefix _)
    obtain ⟨q', hq'⟩ := hp
    rw [← hq', beforeEnd_append hder.isEnd_eq_false, List.append_cancel_left_eq] at hq
    subst hq
    exact ⟨q', hq'.symm, hder, stops_expression_iff.mpr hstop⟩
  · rintro ⟨q, hq, hder, hstop⟩
    refine ⟨beforeEnd q, ?_, hder, stops_expression_iff.mp hstop⟩
    rw [hq, beforeEnd_append hder.isEnd_eq_false]

/-- An expression at the head of a list is what parsing comes to, unless it is too deep. -/
lemma Heads.within {tokens p : List Token} {e : Expr} (h : Heads tokens p e) :
    ∃ rest, Within maxDepth e (.ok (e, rest))
      (Rule.expression.read maxDepth (Stream.ofTokens tokens)) := by
  obtain ⟨q, hq, hder, hstop⟩ := heads_iff.mp h
  exact ⟨_, hder.reads.within hq hstop maxDepth⟩

lemma parse_eq_ok_of_read {tokens : List Token} {e : Expr} {rest : Stream}
    (h : Rule.expression.read maxDepth (Stream.ofTokens tokens) = .ok (e, rest)) :
    parse tokens = .ok e := by
  simp only [parse, Parser.ofTokens, Parser.read, Parser.room, Nat.sub_zero, h]

lemma parse_eq_error_of_read {tokens : List Token} {stop : Stop}
    (h : Rule.expression.read maxDepth (Stream.ofTokens tokens) = .error stop) :
    parse tokens = .error stop.diagnostic := by
  simp only [parse, Parser.ofTokens, Parser.read, Parser.room, Nat.sub_zero, h]

/-- Parsing is reading by the rule for expressions with all the room there is. -/
lemma read_of_parse_eq_ok {tokens : List Token} {e : Expr} (h : parse tokens = .ok e) :
    ∃ rest, Rule.expression.read maxDepth (Stream.ofTokens tokens) = .ok (e, rest) := by
  cases hread : Rule.expression.read maxDepth (Stream.ofTokens tokens) with
  | error stop =>
      rw [parse_eq_error_of_read hread] at h
      exact absurd h (by simp)
  | ok result =>
      rw [parse_eq_ok_of_read hread, Except.ok.injEq] at h
      exact ⟨result.2, by rw [← h]⟩

lemma read_of_parse_eq_error {tokens : List Token} {d : Diagnostic} (h : parse tokens = .error d) :
    ∃ stop, Rule.expression.read maxDepth (Stream.ofTokens tokens) = .error stop ∧
      stop.diagnostic = d := by
  cases hread : Rule.expression.read maxDepth (Stream.ofTokens tokens) with
  | error stop =>
      rw [parse_eq_error_of_read hread, Except.error.injEq] at h
      exact ⟨stop, rfl, h⟩
  | ok result =>
      rw [parse_eq_ok_of_read hread] at h
      exact absurd h (by simp)

lemma exists_heads_of_parse {tokens : List Token} {e : Expr} (h : parse tokens = .ok e) :
    ∃ p, Heads tokens p e ∧ e.depth ≤ maxDepth := by
  obtain ⟨rest, hread⟩ := read_of_parse_eq_ok h
  obtain ⟨p, q, hq, -, hder, hstop, hd⟩ := recognizes_read .expression maxDepth hread
  exact ⟨p, heads_iff.mpr ⟨q, hq, hder, hstop⟩, hd⟩

lemma Heads.parse_eq_ok {tokens p : List Token} {e : Expr} (h : Heads tokens p e)
    (hd : e.depth ≤ maxDepth) : parse tokens = .ok e := by
  obtain ⟨rest, hwithin⟩ := h.within
  exact parse_eq_ok_of_read (hwithin.1 (Expr.fits_maxDepth.mpr hd))

lemma Heads.parse_eq_tooDeep {tokens p : List Token} {e : Expr} (h : Heads tokens p e)
    (hd : maxDepth < e.depth) :
    ∃ line, parse tokens = .error ⟨.tooDeeplyNested maxDepth, line⟩ := by
  obtain ⟨rest, hwithin⟩ := h.within
  have hfit : ¬ e.Fits maxDepth := fun hfit => absurd (Expr.fits_maxDepth.mp hfit) (by omega)
  obtain ⟨⟨⟨fault, line⟩, stopped, leftOpen⟩, hstop, rfl⟩ := hwithin.2 hfit
  exact ⟨line, parse_eq_error_of_read hstop⟩

lemma Heads.unique {tokens p p' : List Token} {e e' : Expr} (h : Heads tokens p e)
    (h' : Heads tokens p' e') : p = p' ∧ e = e' := by
  obtain ⟨q, hq, hder, hstop⟩ := heads_iff.mp h
  obtain ⟨q', hq', hder', hstop'⟩ := heads_iff.mp h'
  exact hder.unique hder' (hq.symm.trans hq') hstop hstop'

/-- **Parsing accepts exactly the grammar, cut at the depth limit.**  The tree that comes out is
the expression at the head of the list, if it is not too deep; there is at most one such
expression, and where it is too deep that is the one thing reported. -/
theorem parse_iff_heads (tokens : List Token) :
    (∀ e, parse tokens = .ok e ↔ ∃ p, Heads tokens p e ∧ e.depth ≤ maxDepth) ∧
    (∀ p e p' e', Heads tokens p e → Heads tokens p' e' → p = p' ∧ e = e') ∧
    (∀ p e, Heads tokens p e → maxDepth < e.depth →
      ∃ line, parse tokens = .error ⟨.tooDeeplyNested maxDepth, line⟩ ∧
        ∀ log, (Reporting.expression tokens).run log =
          (none, log ++ [⟨.tooDeeplyNested maxDepth, line⟩])) := by
  refine ⟨fun e => ⟨exists_heads_of_parse, ?_⟩, ?_, ?_⟩
  · rintro ⟨p, hheads, hd⟩
    exact hheads.parse_eq_ok hd
  · intro p e p' e' h h'
    exact h.unique h'
  · intro p e h hd
    obtain ⟨line, hparse⟩ := h.parse_eq_tooDeep hd
    refine ⟨line, hparse, fun log => ?_⟩
    rw [Reporting.expression, hparse]
    rfl

/-- A constant behind a number of minus signs. -/
def minuses (n : Nat) : List Token :=
  List.replicate n ⟨.minus, "-", none, 1⟩ ++ [⟨.keyword .trueWord, "true", none, 1⟩]

/-- Each minus sign is one level of the tree. -/
lemma derives_minuses (n : Nat) : ∃ e, Derives .unary (minuses n) e ∧ e.depth = n := by
  induction n with
  | zero => exact ⟨.literal (.bool true), .primary (.constant rfl), rfl⟩
  | succ n ih =>
      obtain ⟨e, hder, hd⟩ := ih
      exact ⟨.unary ⟨.minus, "-", none, 1⟩ e, .prefixed (by simp) hder, by simp [Expr.depth, hd]⟩

lemma heads_minuses (n : Nat) : ∃ e, Heads (minuses n) (minuses n) e ∧ e.depth = n := by
  obtain ⟨e, hder, hd⟩ := derives_minuses n
  have hder' : Derives .expression (minuses n) e := .operand (.operand (.operand (.operand hder)))
  refine ⟨e, ⟨[], ?_, hder', by simp⟩, hd⟩
  have hbefore := beforeEnd_append (q := []) hder.isEnd_eq_false
  rwa [List.append_nil] at hbefore

/-- A hundred minus signs are read, and one more is refused, though the grammar derives both. -/
theorem parse_hundred_minuses :
    (∃ e, Heads (minuses 100) (minuses 100) e ∧ parse (minuses 100) = .ok e) ∧
    ∃ e, Heads (minuses 101) (minuses 101) e ∧ maxDepth < e.depth ∧
      ∃ line, parse (minuses 101) = .error ⟨.tooDeeplyNested maxDepth, line⟩ := by
  refine ⟨?_, ?_⟩
  · obtain ⟨e, hheads, hd⟩ := heads_minuses 100
    exact ⟨e, hheads, ((parse_iff_heads _).1 e).mpr ⟨_, hheads, Nat.le_of_eq hd⟩⟩
  · obtain ⟨e, hheads, hd⟩ := heads_minuses 101
    have hdeep : maxDepth < e.depth := by rw [hd]; decide
    obtain ⟨line, hparse, -⟩ := (parse_iff_heads _).2.2 _ _ hheads hdeep
    exact ⟨e, hheads, hdeep, line, hparse⟩

/-! ## Whole sources -/

/-- Where scanning finds nothing wrong, at most one thing is: in reading, or else in evaluation. -/
lemma run_of_scan {source : String} {tokens : List Token} (h : scan source = ⟨tokens, []⟩) :
    run source = (parse tokens >>= Expr.eval).mapError ([·]) := by
  simp only [run, h, List.isEmpty_nil, if_true]
  cases parse tokens with
  | error d => rfl
  | ok e =>
      dsimp only [bind, Except.bind]
      cases e.eval <;> rfl

/-- What a run that fails comes from: from scanning, or, where scanning finds nothing, from reading
or else from evaluation. -/
lemma run_eq_error {source : String} {ds : List Diagnostic} (h : run source = .error ds) :
    ds = (scan source).diagnostics ∧ ds ≠ [] ∨
      (scan source).diagnostics = [] ∧ ∃ d, ds = [d] ∧
        (parse (scan source).tokens = .error d ∨
          ∃ e, parse (scan source).tokens = .ok e ∧ e.eval = .error d) := by
  simp only [run] at h
  split at h
  · rename_i hempty
    refine .inr ⟨List.isEmpty_iff.mp hempty, ?_⟩
    split at h
    · rename_i d hparse
      exact ⟨d, (Except.error.inj h).symm, .inl hparse⟩
    · rename_i e hparse
      split at h
      · rename_i d heval
        exact ⟨d, (Except.error.inj h).symm, .inr ⟨e, hparse, heval⟩⟩
      · cases h
  · rename_i hfound
    obtain rfl := Except.error.inj h
    exact .inl ⟨rfl, fun hnil => hfound (List.isEmpty_iff.mpr hnil)⟩

/-- A source without faults in its text comes to what the expression at the head of its tokens
comes to. -/
lemma Heads.run_eq {source : String} {tokens p : List Token} {e : Expr} (h : Heads tokens p e)
    (hscan : scan source = ⟨tokens, []⟩) (hd : e.depth ≤ maxDepth) :
    run source = e.eval.mapError ([·]) := by
  rw [run_of_scan hscan, h.parse_eq_ok hd]
  rfl

lemma Heads.run_eq_tooDeep {source : String} {tokens p : List Token} {e : Expr}
    (h : Heads tokens p e) (hscan : scan source = ⟨tokens, []⟩) (hd : maxDepth < e.depth) :
    ∃ line, run source = .error [⟨.tooDeeplyNested maxDepth, line⟩] := by
  obtain ⟨line, hparse⟩ := h.parse_eq_tooDeep hd
  refine ⟨line, ?_⟩
  rw [run_of_scan hscan, hparse]
  rfl

end Reckon
