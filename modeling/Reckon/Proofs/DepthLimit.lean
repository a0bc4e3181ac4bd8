import Reckon.Proofs.Lookahead

/-!
# Where the depth limit is passed

An expression is refused for its depth in two ways, and each has a token to answer for it.

**Opening.**  A prefix operator or an opening parenthesis is read within as many levels as may be
open, so that its own cannot be opened: `Unopened`.

**Building.**  What was read last is a node one level deeper than the limit, though all that is
under it keeps the limit: `Overbuilt`.  The token of the node is its operator, or its opening
parenthesis.

Both are read off the obstacle at which reading stopped (`Interrupted.unopened_or_overbuilt`).

**Lines.**  A node that cannot be built is reported on the line of its token.  A level that cannot
be opened is reported on the line of the token *behind* the one that would open it, since reading
has moved on by then.  `line_of_parse_eq_tooDeep` says so of all refusals, and
`not_on_line_of_offender` that the two lines may differ.
-/

namespace Reckon

/-! ## Tokens that answer for a level -/

/-- Up to the second point of the stream, a token has been read that would open one level more than
there is room for: all the levels around it are still open. -/
def Unopened (n : Category) (room : Nat) (s : Stream) (t : Token) (rest : Stream) : Prop :=
  ∃ p m, Opens n p room m ∧ t.kind ∈ m.openers ∧ s.Passes (p ++ [t]) rest

/-- Up to the second point of the stream, a node has been read that is one level too deep, and the
token is the one it belongs to. -/
def Overbuilt (n : Category) (s : Stream) (t : Token) (rest : Stream) : Prop :=
  ∃ p k m q e, Opens n p k m ∧ Derives m q e ∧ e.nodeToken? q = some t ∧
    e.depth = maxDepth + 1 ∧ s.Passes (p ++ q) rest

/-- A node belongs to one of its tokens, which is an operator or an opening parenthesis. -/
lemma Derives.mem_of_nodeToken? {n : Category} {p : List Token} {e : Expr} (h : Derives n p e)
    {t : Token} (ht : e.nodeToken? p = some t) :
    t ∈ p ∧ (t.kind.isOperator = true ∨ t.kind = .leftParen) := by
  cases e with
  | literal v => cases ht
  | unary operator operand =>
      obtain rfl := Option.some.inj ht
      obtain ⟨hmem, hop⟩ := h.mem_of_mem_operators operator (by simp [Expr.operators])
      exact ⟨hmem, .inl hop⟩
  | binary l operator r =>
      obtain rfl := Option.some.inj ht
      obtain ⟨hmem, hop⟩ := h.mem_of_mem_operators operator (by simp [Expr.operators])
      exact ⟨hmem, .inl hop⟩
  | grouping inner =>
      refine ⟨List.mem_of_mem_head? ht, .inr ?_⟩
      generalize hg : Expr.grouping inner = e at h
      induction h with
      | operand _ ih => exact ih ht hg
      | primary _ ih => exact ih ht hg
      | grouping ho _ _ =>
          obtain rfl : _ = t := by simpa [Expr.nodeToken?] using ht
          exact ho
      | _ => cases hg

lemma Unopened.mem {n : Category} {room : Nat} {s rest : Stream} {t : Token}
    (h : Unopened n room s t rest) :
    t ∈ s.pending ∧ (t.kind.isOperator = true ∨ t.kind = .leftParen) := by
  obtain ⟨p, m, -, hk, hpending, -⟩ := h
  refine ⟨by simp [hpending], ?_⟩
  cases m with
  | level level => cases hk
  | unary =>
      have hop : ∀ kind ∈ Category.unary.openers, kind.isOperator = true := by decide
      exact .inl (hop _ hk)
  | primary => exact .inr (List.mem_singleton.mp hk)

lemma Overbuilt.mem {n : Category} {s rest : Stream} {t : Token} (h : Overbuilt n s t rest) :
    t ∈ s.pending ∧ (t.kind.isOperator = true ∨ t.kind = .leftParen) := by
  obtain ⟨p, k, m, q, e, -, hder, ht, -, hpending, -⟩ := h
  obtain ⟨hmem, hkind⟩ := hder.mem_of_nodeToken? ht
  exact ⟨by simp [hpending, hmem], hkind⟩

/-- An interruption for the depth is a level that could not be opened, which is blamed on the token
behind the one that would open it, or a node that could not be built, which is blamed on its
token. -/
lemma Interrupted.unopened_or_overbuilt {n : Category} {room : Nat} {s : Stream} {stop : Stop}
    (h : Interrupted n room s stop) {limit : Nat}
    (hfault : stop.diagnostic.fault = .tooDeeplyNested limit) :
    (∃ t, Unopened n room s t stop.rest ∧ stop.diagnostic = stop.rest.current.tooDeep) ∨
      ∃ t, Overbuilt n s t stop.rest ∧ stop.diagnostic = t.tooDeep := by
  obtain ⟨p, m, left, place, hp, hopens, hroom, hstuck⟩ := h
  obtain ⟨d, rest, k⟩ := stop
  simp only at hopens hroom hstuck hfault ⊢
  cases hstuck with
  | @unopened _ _ _ t hk hbehind =>
      rw [Nat.add_zero] at hroom
      exact .inl ⟨t, ⟨p, m, hroom ▸ hopens, hk, hp.trans hbehind⟩, rfl⟩
  | @overbuilt _ _ _ _ q e t hder ht hdepth hq =>
      exact .inr ⟨t, ⟨p, k, m, q, e, hopens, hder, ht, hdepth, hp.trans hq⟩, rfl⟩
  | expected _ => cases hfault
  | bare _ _ => cases hfault
  | unclosed _ _ _ => cases hfault

/-! ## Parsing -/

/-- **Where the depth limit is passed.**  Parsing that is refused for the depth stopped behind a
token that would open a level within a hundred others that are open, and is reported on the line of
the token behind it; or it stopped behind a node that is one level deeper than the limit, and is
reported on the line of the token that the node belongs to. -/
theorem line_of_parse_eq_tooDeep {tokens : List Token} {limit line : Nat}
    (h : parse tokens = .error ⟨.tooDeeplyNested limit, line⟩) :
    let s := Stream.ofTokens tokens
    let rest := ((Parser.ofTokens tokens).read .expression).2.stream
    (∃ t, Unopened .expression maxDepth s t rest ∧ line = rest.current.line) ∨
      ∃ t, Overbuilt .expression s t rest ∧ line = t.line := by
  intro s rest
  obtain ⟨stop, hread, hdiagnostic, hafter⟩ := Parser.read_eq_error h
  have hrest : rest = stop.rest := congrArg Parser.stream hafter
  have hinterrupted := interrupts_read .expression maxDepth hread
  rw [hrest]
  rcases hinterrupted.unopened_or_overbuilt (by rw [hdiagnostic]) with
    ⟨t, hunopened, hd⟩ | ⟨t, hoverbuilt, hd⟩
  · exact .inl ⟨t, hunopened, congrArg Diagnostic.line (hdiagnostic.symm.trans hd)⟩
  · exact .inr ⟨t, hoverbuilt, congrArg Diagnostic.line (hdiagnostic.symm.trans hd)⟩

/-- Where there are more minus signs than there is room for, the token behind the first of them that
cannot be opened is blamed, whatever it is. -/
lemma unary_minuses {minus : Token} (hk : minus.kind = .minus) {room : Nat} {s : Stream}
    {q : List Token} (hs : s.pending = List.replicate (room + 1) minus ++ q) :
    Rules.unary (Rules.deeper room) s =
      .error ⟨(s.withPending q).current.tooDeep, s.withPending q, room⟩ := by
  have haccept : ∀ (n : Nat) (s : Stream), s.pending = List.replicate (n + 1) minus ++ q →
      s.accept? [.minus, .bang] = some (minus, s.withPending (List.replicate n minus ++ q)) := by
    intro n s hs
    exact Stream.accept?_of_pending hs (by simp [Token.isEnd, hk]) (by simp [hk])
  induction room generalizing s with
  | zero =>
      rw [Rules.unary_eq, haccept 0 s hs]
      rfl
  | succ room ih =>
      have hinner := ih (s := s.withPending (List.replicate (room + 1) minus ++ q)) rfl
      rw [Rules.unary_eq, haccept (room + 1) s hs]
      simp only [Rules.nested, Rules.deeper, id, hinner, andThen]
      rfl

/-- If the first operand cannot be read, nothing can. -/
lemma Rules.equality_of_error {unary : Reader} {s : Stream} {stop : Stop}
    (h : unary s = .error stop) : Rules.equality unary s = .error stop := by
  simp only [Rules.equality, Rules.comparison, Rules.term, Rules.factor, Rules.binary, h]

/-- Minus signs on one line, one more than may be open, and a constant on the next. -/
def minusesAbove : List Token :=
  List.replicate (maxDepth + 1) ⟨.minus, "-", none, 1⟩ ++ [⟨.keyword .trueWord, "true", none, 2⟩]

lemma parse_minusesAbove :
    parse minusesAbove = .error ⟨.tooDeeplyNested maxDepth, 2⟩ := by
  have hpending : (Stream.ofTokens minusesAbove).pending = minusesAbove := by
    simp [Stream.ofTokens, minusesAbove]
  have hunary := unary_minuses rfl hpending
  exact parse_eq_error_of_read (Rules.equality_of_error hunary)

/-- Whatever can answer for a level in it is a minus sign. -/
lemma line_of_mem_minusesAbove {t : Token} (ht : t ∈ (Stream.ofTokens minusesAbove).pending)
    (hk : t.kind.isOperator = true ∨ t.kind = .leftParen) : t.line = 1 := by
  have hall : ∀ u ∈ (Stream.ofTokens minusesAbove).pending,
      u.kind.isOperator = true ∨ u.kind = .leftParen → u.line = 1 := by decide
  exact hall t ht hk

/-- The last minus sign cannot be opened, and this is reported on the line below it. -/
theorem line_of_parse_minusesAbove :
    parse minusesAbove = .error ⟨.tooDeeplyNested maxDepth, 2⟩ ∧
    ∃ t rest, Unopened .expression maxDepth (Stream.ofTokens minusesAbove) t rest ∧
      rest.current.line = 2 ∧ t.line = 1 := by
  refine ⟨parse_minusesAbove, ?_⟩
  rcases line_of_parse_eq_tooDeep parse_minusesAbove with ⟨t, hunopened, hline⟩ | ⟨t, hbuilt, hline⟩
  · obtain ⟨hmem, hk⟩ := hunopened.mem
    exact ⟨t, _, hunopened, hline.symm, line_of_mem_minusesAbove hmem hk⟩
  · obtain ⟨hmem, hk⟩ := hbuilt.mem
    have habove := line_of_mem_minusesAbove hmem hk
    omega

/-- **A refusal is not always on the line of the token that answers for it.** -/
theorem not_on_line_of_offender :
    ¬ ∀ tokens limit line, parse tokens = .error ⟨.tooDeeplyNested limit, line⟩ →
      let rest := ((Parser.ofTokens tokens).read .expression).2.stream
      ∃ t, (Unopened .expression maxDepth (Stream.ofTokens tokens) t rest ∨
        Overbuilt .expression (Stream.ofTokens tokens) t rest) ∧ line = t.line := by
  intro hclaim
  obtain ⟨t, hoffends, hline⟩ := hclaim minusesAbove maxDepth 2 parse_minusesAbove
  have hmem := hoffends.elim Unopened.mem Overbuilt.mem
  have habove := line_of_mem_minusesAbove hmem.1 hmem.2
  omega

end Reckon
