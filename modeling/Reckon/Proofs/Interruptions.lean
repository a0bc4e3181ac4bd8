import Reckon.Proofs.ParserRuns

/-!
# Where reading is interrupted

A rule that fails has read the beginning of an expression.  Where it fails is inside of some prefix
operators and parentheses, and these are the levels that it leaves open.

**Openings.**  `Opens n p k m` says that inside an expression of category `n`, behind the tokens `p`
and within `k` prefix operators and parentheses, an expression of category `m` is due.  Any such
beginning can be completed: put an expression of category `m` there, and close what is open
(`Opens.complete`).

**Obstacles.**  `Stuck m room s d rest` says what can be wrong where an expression of category `m`
is due and `room` more levels can be opened, apart from what is wrong further inside of it.  The
depth is an obstacle in two ways: no level can be opened where one would be, or a node is one level
deeper than the limit.

**Failures.**  Every failure of a rule is an opening with an obstacle in it, and as many levels are
left open as the opening is within (`interrupts_read`).
-/

namespace Reckon

open Rules (Level)

/-! ## The tokens between two points -/

namespace Stream

/-- The tokens stand between the two points of a stream, and none is an end of the input. -/
def Passes (s : Stream) (p : List Token) (rest : Stream) : Prop :=
  s.pending = p ++ rest.pending ∧ rest = s.withPending rest.pending ∧ ∀ t ∈ p, t.isEnd = false

lemma Passes.refl (s : Stream) : s.Passes [] s :=
  ⟨rfl, rfl, by simp⟩

lemma Passes.trans {s₁ s₂ s₃ : Stream} {p q : List Token} (h : s₁.Passes p s₂)
    (h' : s₂.Passes q s₃) : s₁.Passes (p ++ q) s₃ := by
  obtain ⟨hp, hrest, hends⟩ := h
  obtain ⟨hq, hrest', hends'⟩ := h'
  refine ⟨by rw [hp, hq, List.append_assoc], ?_, ?_⟩
  · rw [hrest', hrest]
    rfl
  · intro t ht
    exact (List.mem_append.mp ht).elim (hends t) (hends' t)

lemma Passes.reaches {s rest : Stream} {p : List Token} (h : s.Passes p rest) : s.Reaches rest :=
  ⟨p, rest.pending, h.1, h.2.1, h.2.2⟩

lemma Passes.tokens_eq {s rest : Stream} {p : List Token} (h : s.Passes p rest) :
    s.tokens = p ++ rest.tokens := by
  obtain ⟨hp, hrest, -⟩ := h
  rw [hrest]
  simp [tokens, withPending, hp]

lemma Reaches.exists_passes {s rest : Stream} (h : s.Reaches rest) : ∃ p, s.Passes p rest := by
  obtain ⟨p, q, hq, rfl, hp⟩ := h
  exact ⟨p, hq, rfl, hp⟩

lemma passes_advance {s : Stream} (h : s.current.isEnd = false) :
    s.Passes [s.current] s.advance.2 := by
  obtain ⟨q, hq⟩ := pending_of_current h
  rw [advance_of_pending hq h]
  exact ⟨hq, rfl, by simp [h]⟩

lemma passes_of_accept? {s rest : Stream} {t : Token} {kinds : List Token.Kind}
    (h : s.accept? kinds = some (t, rest)) (hkinds : Token.Kind.endOfInput ∉ kinds) :
    s.Passes [t] rest ∧ t.kind ∈ kinds := by
  obtain ⟨q, hq, rfl, hk⟩ := accept?_eq_some h
  exact ⟨⟨hq, rfl, by simp [Token.isEnd_eq_false_of_mem hk hkinds]⟩, hk⟩

end Stream

lemma Spans.exists_passes {n : Category} {e : Expr} {s rest : Stream} (h : Spans n e s rest) :
    ∃ p, s.Passes p rest ∧ Derives n p e := by
  obtain ⟨p, q, hq, rfl, hder, -⟩ := h
  exact ⟨p, ⟨hq, rfl, hder.isEnd_eq_false⟩, hder⟩

/-! ## Openings -/

/-- Inside an expression of the first category, behind the tokens and within a number of prefix
operators and parentheses, an expression of the second category is due. -/
inductive Opens : Category → List Token → Nat → Category → Prop where
  | here {n : Category} : Opens n [] 0 n
  | operand {level : Level} {p : List Token} {k : Nat} {m : Category}
      (h : Opens level.operand p k m) : Opens (.level level) p k m
  | right {level : Level} {p q : List Token} {operator : Token} {l : Expr} {k : Nat} {m : Category}
      (hl : Derives (.level level) p l) (ho : operator.kind ∈ level.operators)
      (h : Opens level.operand q k m) : Opens (.level level) (p ++ operator :: q) k m
  | prefixed {operator : Token} {p : List Token} {k : Nat} {m : Category}
      (ho : operator.kind ∈ [Token.Kind.minus, .bang]) (h : Opens .unary p k m) :
      Opens .unary (operator :: p) (k + 1) m
  | primary {p : List Token} {k : Nat} {m : Category} (h : Opens .primary p k m) :
      Opens .unary p k m
  | inside {opening : Token} {p : List Token} {k : Nat} {m : Category}
      (ho : opening.kind = .leftParen) (h : Opens .expression p k m) :
      Opens .primary (opening :: p) (k + 1) m

/-- An opening inside of an opening. -/
lemma Opens.trans {n m r : Category} {p q : List Token} {k j : Nat} (h : Opens n p k m)
    (h' : Opens m q j r) : Opens n (p ++ q) (k + j) r := by
  induction h with
  | here => simpa using h'
  | operand _ ih => exact .operand (ih h')
  | right hl ho _ ih => simpa using Opens.right hl ho (ih h')
  | prefixed ho _ ih => simpa [Nat.add_right_comm] using Opens.prefixed ho (ih h')
  | primary _ ih => exact .primary (ih h')
  | inside ho _ ih => simpa [Nat.add_right_comm] using Opens.inside ho (ih h')

/-- A token that closes parentheses. -/
def Token.closing : Token :=
  ⟨.rightParen, ")", none, 1⟩

/-- What is due can be put in, and the parentheses that are open can be closed behind it. -/
lemma Opens.complete {n m : Category} {p : List Token} {k : Nat} (h : Opens n p k m)
    {q : List Token} {e : Expr} (hq : Derives m q e) :
    ∃ more whole, Derives n (p ++ q ++ more) whole := by
  induction h with
  | here => exact ⟨[], e, by simpa using hq⟩
  | operand _ ih =>
      obtain ⟨more, whole, hder⟩ := ih hq
      exact ⟨more, whole, .operand hder⟩
  | @right level p _ operator l _ _ hl ho _ ih =>
      obtain ⟨more, whole, hder⟩ := ih hq
      exact ⟨more, .binary l operator whole, by simpa using hl.binary ho hder⟩
  | @prefixed operator _ _ _ ho _ ih =>
      obtain ⟨more, whole, hder⟩ := ih hq
      exact ⟨more, .unary operator whole, .prefixed ho hder⟩
  | primary _ ih =>
      obtain ⟨more, whole, hder⟩ := ih hq
      exact ⟨more, whole, .primary hder⟩
  | inside ho _ ih =>
      obtain ⟨more, whole, hder⟩ := ih hq
      have hclosing : Token.closing.kind = .rightParen := rfl
      have hclosed := Derives.grouping ho hder hclosing
      exact ⟨more ++ [.closing], .grouping whole, by simpa using hclosed⟩

/-! ## Obstacles -/

/-- The kinds of token with which an expression of a category opens a level of its own. -/
def Category.openers : Category → List Token.Kind
  | .level _ => []
  | .unary => [.minus, .bang]
  | .primary => [.leftParen]

/-- The token that the outermost node of an expression belongs to: its operator, or for parentheses
the first of the tokens that the expression is derived from. -/
def Expr.nodeToken? (p : List Token) : Expr → Option Token
  | .literal _ => none
  | .grouping _ => p.head?
  | .unary operator _ => some operator
  | .binary _ operator _ => some operator

/-- What can be wrong where an expression of a category is due and a number of levels can still be
opened, apart from what is wrong inside of it: the diagnostic and where reading stopped.  A number
or a string without a literal is read before it is refused.  A level for which there is no room is
refused behind the token that would open it, and a node that is one level too deep behind all of its
tokens. -/
inductive Stuck : Category → Nat → Stream → Diagnostic → Stream → Prop where
  | expected {room : Nat} {s : Stream} (h : ∀ q e, ¬ Derives .primary (s.current :: q) e) :
      Stuck .primary room s ⟨.expectedExpression s.current.describe, s.current.line⟩ s
  | bare {room : Nat} {s : Stream} (hk : s.current.kind ∈ [Token.Kind.number, .string])
      (hl : s.current.literal = none) :
      Stuck .primary room s ⟨.expectedExpression s.current.describe, s.current.line⟩ s.advance.2
  | unclosed {room : Nat} {s rest : Stream} {e : Expr} (hk : s.current.kind = .leftParen)
      (h : Spans .expression e s.advance.2 rest) (hc : rest.current.kind ≠ .rightParen) :
      Stuck .primary room s ⟨.unterminatedGrouping rest.current.describe, rest.current.line⟩ rest
  | unopened {n : Category} {s rest : Stream} {t : Token} (hk : t.kind ∈ n.openers)
      (hp : s.Passes [t] rest) : Stuck n 0 s rest.current.tooDeep rest
  | overbuilt {n : Category} {room : Nat} {s rest : Stream} {p : List Token} {e : Expr} {t : Token}
      (hder : Derives n p e) (ht : e.nodeToken? p = some t) (hdepth : e.depth = maxDepth + 1)
      (hp : s.Passes p rest) : Stuck n room s t.tooDeep rest

/-! ## Failures -/

/-- Reading an expression of a category, with room for a number of levels, stopped at an obstacle in
one of its openings.  The levels that the opening is within are left open, and the others are the
room that was left. -/
def Interrupted (n : Category) (room : Nat) (s : Stream) (stop : Stop) : Prop :=
  ∃ p m left place, s.Passes p place ∧ Opens n p stop.leftOpen m ∧ room = stop.leftOpen + left ∧
    Stuck m left place stop.diagnostic stop.rest

/-- Whatever the reader fails with, it was interrupted in an expression of the category. -/
def Interrupts (n : Category) (room : Nat) (reader : Reader) : Prop :=
  ∀ ⦃s : Stream⦄ ⦃stop : Stop⦄, reader s = .error stop → Interrupted n room s stop

/-- An obstacle right where reading starts. -/
lemma Stuck.interrupted {n : Category} {room : Nat} {s rest : Stream} {d : Diagnostic}
    (h : Stuck n room s d rest) : Interrupted n room s ⟨d, rest, 0⟩ :=
  ⟨[], n, room, s, .refl s, .here, (Nat.zero_add room).symm, h⟩

/-- What is interrupted inside of an opening is interrupted from outside, where the levels around
the opening count too. -/
lemma Interrupted.of_opens {n m : Category} {p : List Token} {k room total left opened : Nat}
    {s place rest : Stream} {d : Diagnostic} (h : Interrupted m room place ⟨d, rest, left⟩)
    (ho : Opens n p k m) (hp : s.Passes p place) (htotal : total = k + room)
    (hopened : opened = k + left) : Interrupted n total s ⟨d, rest, opened⟩ := by
  obtain ⟨q, r, spare, place', hq, hopens, hroom, hstuck⟩ := h
  refine ⟨p ++ q, r, spare, place', hp.trans hq, ?_, ?_, hstuck⟩
  · rw [hopened]
    exact ho.trans hopens
  · rw [htotal, hopened, hroom, Nat.add_assoc]

lemma Rules.depth_of_node_eq_error {t : Token} {e : Expr} {s : Stream} {stop : Stop}
    (h : Rules.node t e s = .error stop) : maxDepth < e.depth := by
  simp only [Rules.node] at h
  split at h
  · assumption
  · cases h

lemma Spans.depth_le {n : Category} {e : Expr} {s rest : Stream} (h : Spans n e s rest) :
    e.depth ≤ maxDepth := by
  obtain ⟨-, -, -, -, -, -, hd⟩ := h
  exact hd

/-- How reading in parentheses stops.  The current token is taken for the opening one, whatever it
is.  The level cannot be opened, what is inside is interrupted, a closing parenthesis is missing, or
the node is one level too deep. -/
inductive GroupingStops (s : Stream) : Nat → Stop → Prop where
  | unopened : GroupingStops s 0 ⟨s.advance.2.current.tooDeep, s.advance.2, 0⟩
  | inside {room : Nat} {inner : Stop} (h : Interrupted .expression room s.advance.2 inner) :
      GroupingStops s (room + 1) { inner with leftOpen := inner.leftOpen + 1 }
  | unclosed {room : Nat} {e : Expr} {rest : Stream} (h : Spans .expression e s.advance.2 rest)
      (hc : rest.current.kind ≠ .rightParen) :
      GroupingStops s room
        ⟨⟨.unterminatedGrouping rest.current.describe, rest.current.line⟩, rest, 0⟩
  | overbuilt {room : Nat} {e : Expr} {rest last : Stream} {closing : Token}
      (h : Spans .expression e s.advance.2 rest) (hk : closing.kind = .rightParen)
      (hc : rest.Passes [closing] last) (hdepth : (Expr.grouping e).depth = maxDepth + 1) :
      GroupingStops s room ⟨s.current.tooDeep, last, 0⟩

/-- Behind an opening parenthesis, this is an obstacle in an operand. -/
lemma GroupingStops.interrupted {s : Stream} {room : Nat} {stop : Stop}
    (h : GroupingStops s room stop) (hk : s.current.kind = .leftParen) :
    Interrupted .primary room s stop := by
  have hopening := Stream.passes_advance (s := s) (by simp [Token.isEnd, hk])
  cases h with
  | unopened => exact (Stuck.unopened (by simp [Category.openers, hk]) hopening).interrupted
  | @inside below inner hinner =>
      exact hinner.of_opens (.inside hk .here) hopening (Nat.add_comm below 1)
        (Nat.add_comm inner.leftOpen 1)
  | unclosed hspans hc => exact (Stuck.unclosed hk hspans hc).interrupted
  | overbuilt hspans hk' hc hdepth =>
      obtain ⟨q, hq, hder⟩ := hspans.exists_passes
      have hpasses := hopening.trans (hq.trans hc)
      exact (Stuck.overbuilt (.grouping hk hder hk') rfl hdepth hpasses).interrupted

namespace Interrupts

/-- The chain that has read `l` so far started at `origin`, which is where the level started. -/
lemma chain {level : Level} {operand : Reader} {room : Nat}
    (hrec : Recognizes level.operand operand) (h : Interrupts level.operand room operand)
    {origin s : Stream} {p : List Token} {l : Expr} (hp : origin.Passes p s)
    (hl : Derives (.level level) p l) (hd : l.depth ≤ maxDepth) {stop : Stop}
    (hstop : Rules.chain level operand l s = .error stop) :
    Interrupted (.level level) room origin stop := by
  fun_induction Rules.chain level operand l s generalizing p with
  | case1 => cases hstop
  | case2 l s operator behind hsome stop' hread =>
      obtain rfl : stop' = stop := by simpa using hstop
      obtain ⟨hbehind, ho⟩ := Stream.passes_of_accept? hsome level.endOfInput_not_mem
      exact (h hread).of_opens (.right hl ho .here) (hp.trans hbehind) (Nat.zero_add _).symm
        (Nat.zero_add _).symm
  | case3 l s operator behind hsome r rest hread hdepth =>
      obtain rfl := Except.error.inj hstop
      obtain ⟨hbehind, ho⟩ := Stream.passes_of_accept? hsome level.endOfInput_not_mem
      obtain ⟨q, hq, hder⟩ := (hrec hread).exists_passes
      have hr := (hrec hread).depth_le
      have hdeep : (Expr.binary l operator r).depth = maxDepth + 1 := by
        simp only [Expr.depth] at hdepth ⊢
        omega
      have hpasses := hp.trans (hbehind.trans hq)
      exact (Stuck.overbuilt (hl.binary ho hder) rfl hdeep hpasses).interrupted
  | case4 l s operator behind hsome r rest hread hdepth ih =>
      obtain ⟨hbehind, ho⟩ := Stream.passes_of_accept? hsome level.endOfInput_not_mem
      obtain ⟨q, hq, hder⟩ := (hrec hread).exists_passes
      have hrest : origin.Passes (p ++ operator :: q) rest := hp.trans (hbehind.trans hq)
      exact ih hrest (hl.binary ho hder) (Nat.le_of_not_lt hdepth) hstop

lemma binary {level : Level} {operand : Reader} {room : Nat}
    (hrec : Recognizes level.operand operand) (h : Interrupts level.operand room operand) :
    Interrupts (.level level) room (Rules.binary level operand) := by
  intro s stop hstop
  rw [Rules.binary_eq] at hstop
  rcases andThen_eq_error hstop with hread | ⟨l, rest, hread, hchain⟩
  · exact (h hread).of_opens (.operand .here) (.refl s) (Nat.zero_add _).symm (Nat.zero_add _).symm
  · obtain ⟨p, hp, hder⟩ := (hrec hread).exists_passes
    exact chain hrec h hp (.operand hder) (hrec hread).depth_le hchain

/-- A level from its operands, which are read with the same room. -/
lemma level {level : Level} {room : Nat}
    (h : Interrupts level.operand room (level.operand.rule.read room)) :
    Interrupts (.level level) room ((Category.level level).rule.read room) := by
  rw [Category.read_level]
  exact binary (recognizes_read level.operand room) h

lemma expression {room : Nat} (h : Interrupts .unary room (Category.unary.rule.read room)) :
    Interrupts .expression room (Category.expression.rule.read room) :=
  level (level (level (level h)))

lemma carried {room : Nat} {s : Stream} {stop : Stop}
    (hk : s.current.kind ∈ [Token.Kind.number, .string])
    (hstop : Rules.carried s = .error stop) : Interrupted .primary room s stop := by
  simp only [Rules.carried, s.advance_fst] at hstop
  split at hstop
  · cases hstop
  · rename_i hliteral
    obtain rfl := Except.error.inj hstop
    have hend := Token.isEnd_eq_false_of_mem hk (by decide)
    have hname : s.current.lexeme = s.current.describe := by simp [Token.describe, hend]
    rw [hname]
    exact (Stuck.bare hk hliteral).interrupted

lemma grouping {room : Nat}
    (h : ∀ below < room, Interrupts .unary below (Category.unary.rule.read below)) {s : Stream}
    {stop : Stop} (hstop : Rules.grouping (Rules.deeper room) s = .error stop) :
    GroupingStops s room stop := by
  rw [Rules.grouping_eq, s.advance_fst] at hstop
  rcases andThen_eq_error hstop with hread | ⟨e, rest, hread, hclosing⟩
  · rcases Rules.nested_eq_error hread with ⟨rfl, rfl⟩ | ⟨below, inner, rfl, hinner, rfl⟩
    · exact .unopened
    · exact .inside (expression (h below (Nat.lt_succ_self below)) hinner)
  · obtain ⟨unary, hunary, hok⟩ := Rules.nested_eq_ok hread
    have hspans := (recognizes_deeper room unary hunary).equality hok
    simp only [Rules.closing] at hclosing
    split at hclosing
    · rename_i hnone
      obtain rfl := Except.error.inj hclosing
      refine .unclosed hspans fun hc => ?_
      simp [Stream.accept?, Stream.atEnd, Token.isEnd, hc] at hnone
    · rename_i closing last hclose
      have hdeep := Rules.depth_of_node_eq_error hclosing
      obtain rfl := Rules.node_eq_error hclosing
      obtain ⟨hlast, hk⟩ := Stream.passes_of_accept? hclose (by decide)
      have hd := hspans.depth_le
      refine .overbuilt hspans (List.mem_singleton.mp hk) hlast ?_
      simp only [Expr.depth] at hdeep ⊢
      omega

lemma primary {room : Nat}
    (h : ∀ below < room, Interrupts .unary below (Category.unary.rule.read below)) :
    Interrupts .primary room (Category.primary.rule.read room) := by
  intro s stop hstop
  change Rules.primary (Rules.deeper room) s = .error stop at hstop
  simp only [Rules.primary] at hstop
  split at hstop
  · cases hstop
  · cases hstop
  · cases hstop
  · rename_i hk
    exact carried (by simp [hk]) hstop
  · rename_i hk
    exact carried (by simp [hk]) hstop
  · rename_i hk
    exact (grouping h hstop).interrupted hk
  · obtain rfl := Except.error.inj hstop
    refine Stuck.interrupted (.expected fun q e hder => ?_)
    -- the kinds that can start an operand are those of the branches before this one
    cases hder with
    | constant hv =>
        unfold Token.Kind.constant? at hv
        split at hv <;> simp_all
    | carried hk _ => simp_all
    | grouping ho _ _ => simp_all

lemma unary {room : Nat}
    (h : ∀ below < room, Interrupts .unary below (Category.unary.rule.read below)) :
    Interrupts .unary room (Category.unary.rule.read room) := by
  intro s stop hstop
  change Rules.unary (Rules.deeper room) s = .error stop at hstop
  rw [Rules.unary_eq] at hstop
  split at hstop
  · exact (primary h hstop).of_opens (.primary .here) (.refl s) (Nat.zero_add _).symm
      (Nat.zero_add _).symm
  · rename_i operator behind hsome
    obtain ⟨hbehind, ho⟩ := Stream.passes_of_accept? hsome (by decide)
    rcases andThen_eq_error hstop with hread | ⟨operand, rest, hread, hnode⟩
    · rcases Rules.nested_eq_error hread with ⟨rfl, rfl⟩ | ⟨below, inner, rfl, hinner, rfl⟩
      · exact (Stuck.unopened ho hbehind).interrupted
      · have hinterrupted := h below (Nat.lt_succ_self below) hinner
        exact hinterrupted.of_opens (.prefixed ho .here) hbehind (Nat.add_comm below 1)
          (Nat.add_comm inner.leftOpen 1)
    · obtain ⟨unary, hunary, hok⟩ := Rules.nested_eq_ok hread
      have hdeep := Rules.depth_of_node_eq_error hnode
      obtain rfl := Rules.node_eq_error hnode
      have hspans := recognizes_deeper room unary hunary hok
      obtain ⟨q, hq, hder⟩ := hspans.exists_passes
      have hd := hspans.depth_le
      refine (Stuck.overbuilt (.prefixed ho hder) rfl ?_ (hbehind.trans hq)).interrupted
      simp only [Expr.depth] at hdeep ⊢
      omega

end Interrupts

lemma interrupts_unary (room : Nat) : Interrupts .unary room (Category.unary.rule.read room) := by
  induction room using Nat.strongRecOn with
  | ind room ih => exact Interrupts.unary ih

/-- **A rule fails at an obstacle in an opening**, and leaves open the levels around it. -/
theorem interrupts_read (n : Category) (room : Nat) : Interrupts n room (n.rule.read room) := by
  have hunary := interrupts_unary room
  cases n with
  | level level =>
      cases level with
      | equality => exact .expression hunary
      | comparison => exact .level (.level (.level hunary))
      | term => exact .level (.level hunary)
      | factor => exact .level hunary
  | unary => exact hunary
  | primary => exact Interrupts.primary fun below _ => interrupts_unary below

end Reckon
