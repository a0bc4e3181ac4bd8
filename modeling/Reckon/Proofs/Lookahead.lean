import Reckon.Proofs.Anchors
import Reckon.Proofs.Interruptions

/-!
# One token of lookahead

Reading looks at the token it stands at and at none behind it.

**Forks.**  Two streams fork if they have the same tokens up to one, and behind that go on each in
its own way.  A rule that does not go beyond the fork in one of them does the same in the other
(`decided_expression`).  There is one lemma for each way in which rules are built; what is read
first stays before the fork because what is read behind it does.

**Earliest errors.**  A rule that is interrupted by a token has read the beginning of an expression,
and no expression goes on with that token, since every stream with the same beginning and that token
is interrupted in the same way (`read_decided_by_lookahead`).
-/

namespace Reckon

open Rules (Level)

/-! ## Tokens of a stream -/

namespace Stream

lemma current_eq_of_tokens {s : Stream} {t : Token} {l : List Token} (h : s.tokens = t :: l) :
    s.current = t := by
  cases hp : s.pending <;> simp_all [tokens, current]

lemma length_tokens (s : Stream) : s.tokens.length = s.remaining + 1 := by
  simp [tokens, remaining]

/-- A token that is no end of the input is read off the tokens. -/
lemma tokens_advance {s : Stream} {t : Token} {l : List Token} (h : s.tokens = t :: l)
    (ht : t.isEnd = false) : s.advance.2.tokens = l := by
  have hcurrent := current_eq_of_tokens h
  have hpasses := passes_advance (hcurrent.symm ▸ ht)
  rw [hpasses.tokens_eq, hcurrent] at h
  exact (List.cons.inj h).2

lemma advance_of_isEnd {s : Stream} (h : s.current.isEnd = true) : s.advance.2 = s := by
  cases hp : s.pending with
  | nil => simp [advance, hp]
  | cons t q =>
      rw [current_eq_of_pending hp] at h
      simp [advance, hp, h]

/-! ## Forks -/

/-- Two streams have the same tokens up to one, behind which the first goes on with `x` and the
second with `x'`.  There is no end of the input before that token. -/
def Forks (x x' : List Token) (s s' : Stream) : Prop :=
  ∃ p t, s.tokens = p ++ t :: x ∧ s'.tokens = p ++ t :: x' ∧ ∀ u ∈ p, u.isEnd = false

namespace Forks

variable {x x' : List Token} {s s' : Stream}

lemma current_eq (h : Forks x x' s s') : s'.current = s.current := by
  obtain ⟨p, t, hs, hs', -⟩ := h
  cases p with
  | nil => rw [current_eq_of_tokens hs, current_eq_of_tokens hs']
  | cons u p => rw [current_eq_of_tokens hs, current_eq_of_tokens hs']

/-- Reading a token does not lead beyond the fork in one stream alone. -/
lemma advance (h : Forks x x' s s') (hx : x.length ≤ s.advance.2.remaining) :
    Forks x x' s.advance.2 s'.advance.2 := by
  have hcurrent := h.current_eq
  obtain ⟨p, t, hs, hs', hp⟩ := h
  by_cases hend : s.current.isEnd = true
  · rw [advance_of_isEnd hend, advance_of_isEnd (hcurrent ▸ hend)]
    exact ⟨p, t, hs, hs', hp⟩
  · rw [Bool.not_eq_true] at hend
    cases p with
    | nil =>
        have hbeyond := tokens_advance hs (current_eq_of_tokens hs ▸ hend)
        have hlength := length_tokens s.advance.2
        rw [hbeyond] at hlength
        omega
    | cons u p =>
        rw [List.forall_mem_cons] at hp
        exact ⟨p, t, tokens_advance hs hp.1, tokens_advance hs' hp.1, hp.2⟩

lemma atEnd_eq (h : Forks x x' s s') : s'.atEnd = s.atEnd := by
  rw [atEnd, atEnd, h.current_eq]

lemma accept?_eq_none {kinds : List Token.Kind} (h : Forks x x' s s')
    (hnone : s.accept? kinds = none) : s'.accept? kinds = none := by
  rw [accept?, h.atEnd_eq, h.current_eq]
  simpa only [accept?, ite_eq_right_iff, reduceCtorEq] using hnone

lemma accept?_eq_some {kinds : List Token.Kind} {t : Token} {rest : Stream} (h : Forks x x' s s')
    (hsome : s.accept? kinds = some (t, rest)) (hx : x.length ≤ rest.remaining) :
    ∃ rest', s'.accept? kinds = some (t, rest') ∧ Forks x x' rest rest' := by
  simp only [accept?, Option.ite_none_right_eq_some, Option.some.injEq] at hsome
  obtain ⟨hkinds, hadvance⟩ := hsome
  obtain ⟨rfl, rfl⟩ : s.advance.1 = t ∧ s.advance.2 = rest := by simp [hadvance]
  refine ⟨s'.advance.2, ?_, h.advance hx⟩
  rw [accept?, h.atEnd_eq, h.current_eq, if_pos hkinds, s.advance_fst, ← h.current_eq,
    ← s'.advance_fst]

end Forks

end Stream

/-! ## Chains of operators -/

/-- What is read behind an operator of a level and its operands: they become the left operand. -/
def Rules.joining (level : Level) (operand : Reader) (l : Expr) (operator : Token) (r : Expr) :
    Reader := fun s =>
  if maxDepth < (Expr.binary l operator r).depth then .error ⟨operator.tooDeep, s, 0⟩
  else Rules.chain level operand (.binary l operator r) s

lemma Rules.chain_eq (level : Level) (operand : Reader) (l : Expr) (s : Stream) :
    Rules.chain level operand l s = match s.accept? level.operators with
      | none => .ok (l, s)
      | some (operator, behind) =>
        andThen (operand behind) (Rules.joining level operand l operator) := by
  rw [Rules.chain]
  rfl

/-- What holds of a left operand if it holds of all that it can become by one more operator.  It
cannot become deeper than the limit, so there is an end to it. -/
lemma Expr.growing_induction {P : Expr → Prop} (l : Expr)
    (step : ∀ l, (∀ operator r, (Expr.binary l operator r).depth ≤ maxDepth →
      P (.binary l operator r)) → P l) : P l := by
  induction h : maxDepth - l.depth using Nat.strongRecOn generalizing l with
  | ind room ih =>
      refine step l fun operator r hdepth => ih _ ?_ _ rfl
      simp only [Expr.depth] at hdepth ⊢
      omega

/-! ## Outcomes -/

/-- Where reading ended, whether it succeeded or failed. -/
def restOf : Except Stop (Expr × Stream) → Stream
  | .ok (_, rest) => rest
  | .error stop => stop.rest

/-- Reading forked streams came to the same, and ended at the same place before the fork. -/
inductive SameOutcome (x x' : List Token) :
    Except Stop (Expr × Stream) → Except Stop (Expr × Stream) → Prop where
  | ok {e : Expr} {rest rest' : Stream} (h : Stream.Forks x x' rest rest') :
      SameOutcome x x' (.ok (e, rest)) (.ok (e, rest'))
  | error {d : Diagnostic} {rest rest' : Stream} {k : Nat} (h : Stream.Forks x x' rest rest') :
      SameOutcome x x' (.error ⟨d, rest, k⟩) (.error ⟨d, rest', k⟩)

namespace SameOutcome

variable {x x' : List Token} {result : Except Stop (Expr × Stream)}

lemma eq_ok {e : Expr} {rest : Stream} (h : SameOutcome x x' (.ok (e, rest)) result) :
    ∃ rest', result = .ok (e, rest') ∧ Stream.Forks x x' rest rest' := by
  cases h with
  | ok h => exact ⟨_, rfl, h⟩

lemma eq_error {stop : Stop} (h : SameOutcome x x' (.error stop) result) :
    ∃ rest', result = .error { stop with rest := rest' } ∧
      Stream.Forks x x' stop.rest rest' := by
  cases h with
  | error h => exact ⟨_, rfl, h⟩

end SameOutcome

/-! ## Leading on -/

/-- The reader leads on from where it starts. -/
def Goes (reader : Reader) : Prop :=
  ∀ s, Stream.Reaches s (restOf (reader s))

namespace Goes

lemma read (rule : Rule) (room : Nat) : Goes (rule.read room) := by
  intro s
  cases hread : rule.read room s with
  | ok result => exact (consumes_read hread).reaches
  | error stop => exact (blames_read rule room hread).reaches

lemma nested {room : Nat} {rule : Reader → Reader}
    (h : ∀ below, Goes (rule (Rules.unary (Rules.deeper below)))) :
    Goes (Rules.nested (Rules.deeper room) rule) := by
  intro s
  cases room with
  | zero => exact .refl s
  | succ below =>
      have hgo := h below s
      simp only [Rules.nested, Rules.deeper]
      cases hread : rule (Rules.unary (Rules.deeper below)) s with
      | ok result => rwa [hread] at hgo
      | error stop => rwa [hread] at hgo

lemma node (t : Token) (e : Expr) : Goes (Rules.node t e) := by
  intro s
  simp only [Rules.node]
  split
  · exact .refl s
  · exact .refl s

lemma closing (opening : Token) (inner : Expr) : Goes (Rules.closing opening inner) := by
  intro s
  simp only [Rules.closing]
  split
  · exact .refl s
  · rename_i last hclose
    exact (Stream.reaches_of_accept? hclose).2.trans (node opening (.grouping inner) last)

end Goes

lemma reaches_andThen {first : Except Stop (Expr × Stream)} {next : Expr → Reader}
    (h : ∀ e, Goes (next e)) : (restOf first).Reaches (restOf (andThen first next)) := by
  cases first with
  | error stop => exact .refl stop.rest
  | ok result => exact h result.1 result.2

lemma Goes.joining {level : Level} {operand : Reader} {l : Expr} {operator : Token} {r : Expr}
    (h : (Expr.binary l operator r).depth ≤ maxDepth →
      Goes (Rules.chain level operand (.binary l operator r))) :
    Goes (Rules.joining level operand l operator r) := by
  intro s
  simp only [Rules.joining]
  split
  · exact .refl s
  · rename_i hdepth
    exact h (Nat.le_of_not_lt hdepth) s

lemma Goes.chain {operand : Reader} (h : Goes operand) (level : Level) (l : Expr) :
    Goes (Rules.chain level operand l) := by
  induction l using Expr.growing_induction with
  | step l ih =>
      intro s
      rw [Rules.chain_eq]
      split
      · exact .refl s
      · rename_i operator behind hsome
        have hbehind := (Stream.reaches_of_accept? hsome).2.trans (h behind)
        exact hbehind.trans (reaches_andThen fun r => Goes.joining (ih operator r))

/-! ## Rules -/

/-- What the reader comes to is decided by the tokens up to where it ends. -/
def Decided (reader : Reader) : Prop :=
  ∀ ⦃x x' : List Token⦄ ⦃s s' : Stream⦄, Stream.Forks x x' s s' →
    x.length ≤ (restOf (reader s)).remaining → SameOutcome x x' (reader s) (reader s')

/-- Reading on is decided if both parts are: the first ends before the fork if the second does. -/
lemma SameOutcome.andThen {x x' : List Token} {first first' : Except Stop (Expr × Stream)}
    {next : Expr → Reader}
    (hfirst : x.length ≤ (restOf first).remaining → SameOutcome x x' first first')
    (hgo : ∀ e, Goes (next e)) (hnext : ∀ e, Decided (next e))
    (hx : x.length ≤ (restOf (andThen first next)).remaining) :
    SameOutcome x x' (Reckon.andThen first next) (Reckon.andThen first' next) := by
  have hsame := hfirst (Nat.le_trans hx (reaches_andThen hgo).remaining_le)
  cases hsame with
  | ok hrest => exact hnext _ hrest hx
  | error hrest => exact .error hrest

namespace Decided

lemma joining {level : Level} {operand : Reader} {l : Expr} {operator : Token} {r : Expr}
    (h : (Expr.binary l operator r).depth ≤ maxDepth →
      Decided (Rules.chain level operand (.binary l operator r))) :
    Decided (Rules.joining level operand l operator r) := by
  intro x x' s s' hs hx
  simp only [Rules.joining] at hx ⊢
  by_cases hdepth : maxDepth < (Expr.binary l operator r).depth
  · simp only [if_pos hdepth]
    exact .error hs
  · simp only [if_neg hdepth] at hx ⊢
    exact h (Nat.le_of_not_lt hdepth) hs hx

lemma chain {operand : Reader} (hgo : Goes operand) (h : Decided operand) (level : Level)
    (l : Expr) : Decided (Rules.chain level operand l) := by
  induction l using Expr.growing_induction with
  | step l ih =>
      intro x x' s s' hs hx
      rw [Rules.chain_eq] at hx ⊢
      rw [Rules.chain_eq]
      cases haccept : s.accept? level.operators with
      | none =>
          rw [hs.accept?_eq_none haccept]
          exact .ok hs
      | some result =>
          obtain ⟨operator, behind⟩ := result
          rw [haccept] at hx
          have hjoin : ∀ r, Goes (Rules.joining level operand l operator r) :=
            fun r => Goes.joining fun _ => hgo.chain level _
          have hbehind := (hgo behind).trans (reaches_andThen hjoin)
          obtain ⟨behind', haccept', hfork⟩ :=
            hs.accept?_eq_some haccept (Nat.le_trans hx hbehind.remaining_le)
          rw [haccept']
          exact SameOutcome.andThen (h hfork) hjoin (fun r => joining (ih operator r)) hx

/-- A level from its operands, which are read with the same room. -/
lemma level {level : Level} {room : Nat} (h : Decided (level.operand.rule.read room)) :
    Decided ((Category.level level).rule.read room) := by
  intro x x' s s' hs hx
  rw [Category.read_level] at hx ⊢
  rw [Rules.binary_eq] at hx ⊢
  have hgo := Goes.read level.operand.rule room
  exact SameOutcome.andThen (h hs) (hgo.chain level) (chain hgo h level) hx

lemma expression {room : Nat} (h : Decided (Category.unary.rule.read room)) :
    Decided (Category.expression.rule.read room) :=
  level (level (level (level h)))

/-- Opening a level is decided by the current token. -/
lemma nested {room : Nat} {rule : Reader → Reader}
    (h : ∀ below < room, Decided (rule (Rules.unary (Rules.deeper below)))) :
    Decided (Rules.nested (Rules.deeper room) rule) := by
  intro x x' s s' hs hx
  cases room with
  | zero =>
      simp only [Rules.nested, Rules.deeper, hs.current_eq]
      exact .error hs
  | succ below =>
      have hsame := h below (Nat.lt_succ_self below) hs
      simp only [Rules.nested, Rules.deeper] at hx ⊢
      cases hread : rule (Rules.unary (Rules.deeper below)) s with
      | error stop =>
          rw [hread] at hx hsame
          obtain ⟨rest', hread', hrest⟩ := (hsame hx).eq_error
          rw [hread']
          exact .error hrest
      | ok result =>
          rw [hread] at hx hsame
          obtain ⟨rest', hread', hrest⟩ := (hsame hx).eq_ok
          rw [hread']
          exact .ok hrest

lemma node (t : Token) (e : Expr) : Decided (Rules.node t e) := by
  intro x x' s s' hs hx
  simp only [Rules.node]
  split
  · exact .error hs
  · exact .ok hs

lemma closing (opening : Token) (inner : Expr) : Decided (Rules.closing opening inner) := by
  intro x x' s s' hs hx
  simp only [Rules.closing] at hx ⊢
  cases hclose : s.accept? [.rightParen] with
  | none =>
      rw [hs.accept?_eq_none hclose, hs.current_eq]
      exact .error hs
  | some result =>
      obtain ⟨t, last⟩ := result
      rw [hclose] at hx
      have hlast := (Goes.node opening (.grouping inner) last).remaining_le
      obtain ⟨last', hclose', hfork⟩ := hs.accept?_eq_some hclose (Nat.le_trans hx hlast)
      rw [hclose']
      exact node opening (.grouping inner) hfork hx

lemma grouping {room : Nat}
    (h : ∀ below < room, Decided (Rules.unary (Rules.deeper below))) :
    Decided (Rules.grouping (Rules.deeper room)) := by
  intro x x' s s' hs hx
  have hinner : Decided (Rules.nested (Rules.deeper room) Rules.equality) :=
    nested fun below hbelow => expression (h below hbelow)
  have hgo : Goes (Rules.nested (Rules.deeper room) Rules.equality) :=
    Goes.nested fun below => Goes.read .equality below
  rw [Rules.grouping_eq] at hx ⊢
  rw [Rules.grouping_eq, s'.advance_fst, hs.current_eq, ← s.advance_fst]
  refine SameOutcome.andThen (fun hx' => ?_) (Goes.closing _) (closing _) hx
  exact hinner (hs.advance (Nat.le_trans hx' (hgo _).remaining_le)) hx'

lemma carried : Decided Rules.carried := by
  intro x x' s s' hs hx
  simp only [Rules.carried] at hx ⊢
  rw [s'.advance_fst, hs.current_eq, ← s.advance_fst]
  cases hliteral : s.advance.1.literal with
  | some v =>
      rw [hliteral] at hx
      exact .ok (hs.advance hx)
  | none =>
      rw [hliteral] at hx
      exact .error (hs.advance hx)

lemma primary {room : Nat}
    (h : ∀ below < room, Decided (Rules.unary (Rules.deeper below))) :
    Decided (Rules.primary (Rules.deeper room)) := by
  intro x x' s s' hs hx
  simp only [Rules.primary, hs.current_eq] at hx ⊢
  split at hx
  · exact .ok (hs.advance hx)
  · exact .ok (hs.advance hx)
  · exact .ok (hs.advance hx)
  · exact carried hs hx
  · exact carried hs hx
  · exact grouping h hs hx
  · exact .error hs

lemma unary {room : Nat}
    (h : ∀ below < room, Decided (Rules.unary (Rules.deeper below))) :
    Decided (Rules.unary (Rules.deeper room)) := by
  intro x x' s s' hs hx
  have hinner : Decided (Rules.nested (Rules.deeper room) id) := nested h
  have hgo : Goes (Rules.nested (Rules.deeper room) id) :=
    Goes.nested fun below => Goes.read .unary below
  rw [Rules.unary_eq] at hx ⊢
  rw [Rules.unary_eq]
  cases haccept : s.accept? [.minus, .bang] with
  | none =>
      rw [haccept] at hx
      rw [hs.accept?_eq_none haccept]
      exact primary h hs hx
  | some result =>
      obtain ⟨operator, behind⟩ := result
      rw [haccept] at hx
      have hnode : ∀ operand, Goes (Rules.node operator (.unary operator operand)) :=
        fun operand => Goes.node operator _
      have hbehind := (hgo behind).trans (reaches_andThen hnode)
      obtain ⟨behind', haccept', hfork⟩ :=
        hs.accept?_eq_some haccept (Nat.le_trans hx hbehind.remaining_le)
      rw [haccept']
      exact SameOutcome.andThen (hinner hfork) hnode (fun operand => node operator _) hx

end Decided

lemma decided_unary (room : Nat) : Decided (Rules.unary (Rules.deeper room)) := by
  induction room using Nat.strongRecOn with
  | ind room ih => exact Decided.unary ih

/-- **Reading an expression is decided by the tokens up to where it ends.** -/
theorem decided_expression (room : Nat) : Decided (Rule.expression.read room) :=
  Decided.expression (decided_unary room)

/-! ## Earliest errors -/

/-- Every number and every string carries its literal. -/
def Carrying (tokens : List Token) : Prop :=
  ∀ t ∈ tokens, t.kind ∈ [Token.Kind.number, .string] → t.literal ≠ none

/-- The tokens of a source carry their literals: a number or a string is a piece with its form. -/
lemma carrying_scan (source : String) : Carrying (scan source).tokens := by
  intro t ht hk
  rcases mem_tokens_scan ht with rfl | ⟨located, hmem, htoken⟩
  · exact absurd hk (by simp [Token.endAt])
  · obtain ⟨_, _, _, _, hfits⟩ := exists_of_mem_locate_segments hmem
    have hlex := hfits.lexeme
    have hdenotes := Located.denotes_of_token? hlex htoken
    generalize located.segment = piece at hlex hdenotes
    cases hdenotes with
    | @symbol kind text line =>
        have hall : ∀ symbol ∈ Token.Kind.symbols,
            symbol.2 ∉ [Token.Kind.number, .string] := by decide
        cases hlex with
        | symbol hsymbol => exact absurd hk (hall _ hsymbol)
    | keyword => exact absurd hk (by simp)
    | identifier _ => exact absurd hk (by simp)
    | _ => simp

/-- A stream holds no more numbers and strings than the list it is made of. -/
lemma Carrying.stream {tokens : List Token} (h : Carrying tokens) :
    Carrying (Stream.ofTokens tokens).tokens := by
  rcases Stream.tokens_ofTokens_eq tokens with heq | ⟨line, heq⟩
  · rwa [heq]
  · rw [heq]
    intro t ht hk
    rcases List.mem_append.mp ht with ht | ht
    · exact h t ht hk
    · obtain rfl := List.mem_singleton.mp ht
      exact absurd hk (by simp [Token.endAt])

/-- A diagnostic that names a token where something else should have been. -/
def Token.Unexpected (t : Token) (d : Diagnostic) : Prop :=
  d = ⟨.expectedExpression t.describe, t.line⟩ ∨ d = ⟨.unterminatedGrouping t.describe, t.line⟩

/-- Where literals are carried and depth is not what is wrong, reading is interrupted by the token
it stands at, and what it has read is the beginning of an expression. -/
lemma Interrupted.exists_completion {n : Category} {room : Nat} {s : Stream} {stop : Stop}
    (h : Interrupted n room s stop) (hcarry : Carrying s.tokens)
    (hdepth : stop.diagnostic.fault ≠ .tooDeeplyNested maxDepth) :
    stop.rest.current.Unexpected stop.diagnostic ∧
      ∃ p, s.Passes p stop.rest ∧ ∃ more e, Derives n (p ++ more) e := by
  obtain ⟨p, m, left, place, hp, hopens, -, hstuck⟩ := h
  obtain ⟨d, rest, k⟩ := stop
  simp only at hopens hstuck hdepth ⊢
  cases hstuck with
  | expected _ =>
      refine ⟨.inl rfl, p, hp, ?_⟩
      -- any operand would do where one is due
      have hoperand : Derives .primary [⟨.keyword .nilWord, "nil", none, 1⟩] (.literal .nil) :=
        .constant rfl
      obtain ⟨more, e, hder⟩ := hopens.complete hoperand
      exact ⟨_, e, by simpa using hder⟩
  | bare hk hliteral =>
      have hmem := hp.reaches.tokens_subset place.current_mem_tokens
      exact absurd hliteral (hcarry _ hmem hk)
  | @unclosed _ _ _ inner hk hspans _ =>
      obtain ⟨q, hq, hinner⟩ := hspans.exists_passes
      have hopening := Stream.passes_advance (s := place) (by simp [Token.isEnd, hk])
      refine ⟨.inr rfl, p ++ place.current :: q, hp.trans (hopening.trans hq), ?_⟩
      have hclosing : Token.closing.kind = .rightParen := rfl
      obtain ⟨more, e, hder⟩ := hopens.complete (.grouping hk hinner hclosing)
      exact ⟨.closing :: more, e, by simpa using hder⟩
  | unopened _ _ => exact absurd rfl hdepth
  | overbuilt _ _ _ _ => exact absurd rfl hdepth

/-! ## Lists of tokens -/

namespace Parser

lemma stream_read (p : Parser) (rule : Rule) :
    (p.read rule).2.stream = restOf (rule.read p.room p.stream) := by
  simp only [read]
  cases rule.read p.room p.stream <;> rfl

lemma read_eq_error {p : Parser} {rule : Rule} {d : Diagnostic} (h : (p.read rule).1 = .error d) :
    ∃ stop, rule.read p.room p.stream = .error stop ∧ stop.diagnostic = d ∧
      (p.read rule).2 = ⟨stop.rest, p.nesting + stop.leftOpen⟩ := by
  simp only [read] at h ⊢
  cases hread : rule.read p.room p.stream with
  | ok result => simp [hread] at h
  | error stop =>
      simp only [hread, Except.error.injEq] at h
      exact ⟨stop, rfl, h, rfl⟩

/-- What is read, the tokens behind it, and the place of the parser among all tokens. -/
lemma exists_cursor_read (tokens : List Token) (rule : Rule) :
    let all := (Stream.ofTokens tokens).tokens
    let rest := ((ofTokens tokens).read rule).2.stream
    ∃ p x, (Stream.ofTokens tokens).Passes p rest ∧ rest.tokens = rest.current :: x ∧
      all = p ++ rest.current :: x ∧ ((ofTokens tokens).read rule).2.cursor all = p.length := by
  intro all rest
  have hreaches : (Stream.ofTokens tokens).Reaches rest := by
    have hgo := Goes.read rule (ofTokens tokens).room (ofTokens tokens).stream
    rwa [← stream_read] at hgo
  obtain ⟨p, hp⟩ := hreaches.exists_passes
  obtain ⟨t, x, htokens⟩ : ∃ t x, rest.tokens = t :: x :=
    List.exists_cons_of_ne_nil (by simp [Stream.tokens])
  obtain rfl := Stream.current_eq_of_tokens htokens
  exact ⟨p, x, hp, htokens, htokens ▸ hp.tokens_eq, cursor_eq hp.tokens_eq⟩

lemma read_eq_of_sameOutcome {p p' : Parser} {rule : Rule} {x x' : List Token}
    (h : SameOutcome x x' (rule.read p.room p.stream) (rule.read p'.room p'.stream)) :
    (p'.read rule).1 = (p.read rule).1 ∧
      Stream.Forks x x' (p.read rule).2.stream (p'.read rule).2.stream := by
  simp only [read]
  generalize rule.read p.room p.stream = result at h ⊢
  generalize rule.read p'.room p'.stream = result' at h ⊢
  cases h with
  | ok h => exact ⟨rfl, h⟩
  | error h => exact ⟨rfl, h⟩

/-- Two lists of tokens that agree up to where reading the first ends are read alike. -/
lemma read_eq_of_take_eq {tokens tokens' : List Token}
    (h : (Stream.ofTokens tokens').tokens.take
        (((ofTokens tokens).read .expression).2.cursor (Stream.ofTokens tokens).tokens + 1) =
      (Stream.ofTokens tokens).tokens.take
        (((ofTokens tokens).read .expression).2.cursor (Stream.ofTokens tokens).tokens + 1)) :
    ((ofTokens tokens').read .expression).1 = ((ofTokens tokens).read .expression).1 ∧
      ((ofTokens tokens').read .expression).2.cursor (Stream.ofTokens tokens').tokens =
        ((ofTokens tokens).read .expression).2.cursor (Stream.ofTokens tokens).tokens := by
  obtain ⟨p, x, hp, hrest, hall, hcursor⟩ := exists_cursor_read tokens .expression
  set rest := ((ofTokens tokens).read .expression).2.stream with hstream
  rw [hcursor] at h ⊢
  obtain ⟨x', hall'⟩ : ∃ x', (Stream.ofTokens tokens').tokens = p ++ rest.current :: x' := by
    refine ⟨(Stream.ofTokens tokens').tokens.drop (p.length + 1), ?_⟩
    have hsplit := List.take_append_drop (p.length + 1) (Stream.ofTokens tokens').tokens
    rw [h, hall, List.take_length_add_append] at hsplit
    simpa using hsplit.symm
  have hforks : Stream.Forks x x' (Stream.ofTokens tokens) (Stream.ofTokens tokens') :=
    ⟨p, rest.current, hall, hall', hp.2.2⟩
  have hx : x.length ≤ rest.remaining := by
    have hlength := rest.length_tokens
    rw [hrest, List.length_cons] at hlength
    omega
  rw [hstream, stream_read] at hx
  have hsame : SameOutcome x x'
      (Rule.expression.read (ofTokens tokens).room (ofTokens tokens).stream)
      (Rule.expression.read (ofTokens tokens').room (ofTokens tokens').stream) :=
    decided_expression maxDepth hforks hx
  obtain ⟨hresult, q, t, hq, hq', -⟩ := read_eq_of_sameOutcome hsame
  refine ⟨hresult, ?_⟩
  -- the fork is the current token of both, so nothing stands before it
  have hlength := congrArg List.length (hrest.symm.trans hq)
  simp only [List.length_cons, List.length_append] at hlength
  simp only [cursor, hall', hq', List.length_append, List.length_cons]
  omega

/-- **One token of lookahead, and the earliest error.**  Reading an expression ends at a token, and
every list of tokens that is the same up to that token is read alike and to the same place.  Where
numbers and strings carry literals, as those of a source do, a token that is reported as unexpected
is the one at which reading ended.  Up to there the tokens are the beginning of an expression, and
no list that is the same up to that token is an expression, however deep. -/
theorem read_decided_by_lookahead (tokens : List Token) :
    let all := (Stream.ofTokens tokens).tokens
    let read := (ofTokens tokens).read .expression
    let i := read.2.cursor all
    (∀ tokens', (Stream.ofTokens tokens').tokens.take (i + 1) = all.take (i + 1) →
      ((ofTokens tokens').read .expression).1 = read.1 ∧
      ((ofTokens tokens').read .expression).2.cursor (Stream.ofTokens tokens').tokens = i) ∧
    (Carrying tokens → ∀ d found, read.1 = .error d →
      d.fault = .expectedExpression found ∨ d.fault = .unterminatedGrouping found →
      (∃ t, all[i]? = some t ∧ d.line = t.line ∧ found = t.describe) ∧
      (∃ more e, Derives .expression (all.take i ++ more) e) ∧
      ∀ tokens', (Stream.ofTokens tokens').tokens.take (i + 1) = all.take (i + 1) →
        (∀ e, parse tokens' ≠ .ok e) ∧ ∀ p e, ¬ Heads tokens' p e) ∧
    ∀ source, Carrying (scan source).tokens := by
  intro all read i
  refine ⟨fun tokens' h => read_eq_of_take_eq h, ?_, carrying_scan⟩
  intro hcarry d found herror hfault
  have hdepth : d.fault ≠ .tooDeeplyNested maxDepth := by
    rcases hfault with hfault | hfault <;> simp [hfault]
  obtain ⟨stop, hread, rfl, hafter⟩ := read_eq_error herror
  obtain ⟨hnamed, p, hp, more, e, hder⟩ :=
    (interrupts_read .expression _ hread).exists_completion hcarry.stream hdepth
  have hall : all = p ++ stop.rest.tokens := hp.tokens_eq
  have hi : i = p.length := by
    have hrest : read.2.stream = stop.rest := by rw [hafter]
    exact cursor_eq (hrest ▸ hall)
  have hcurrent : all[i]? = some stop.rest.current := by
    obtain ⟨t, x, htokens⟩ : ∃ t x, stop.rest.tokens = t :: x :=
      List.exists_cons_of_ne_nil (by simp [Stream.tokens])
    rw [hi, hall, htokens, Stream.current_eq_of_tokens htokens]
    simp
  refine ⟨⟨stop.rest.current, hcurrent, ?_⟩, ⟨more, e, ?_⟩, fun tokens' h => ?_⟩
  · rcases hnamed with hnamed | hnamed <;> rw [hnamed] at hfault ⊢ <;> simp_all
  · rwa [hi, hall, List.take_left]
  · have hparse : parse tokens' = .error stop.diagnostic := (read_eq_of_take_eq h).1.trans herror
    refine ⟨fun e hok => by simp [hparse] at hok, fun p' e' hheads => ?_⟩
    rcases Nat.lt_or_ge maxDepth e'.depth with hdeep | hfits
    · obtain ⟨line, htooDeep⟩ := hheads.parse_eq_tooDeep hdeep
      rw [hparse, Except.error.injEq] at htooDeep
      exact hdepth (by rw [htooDeep])
    · simp [hheads.parse_eq_ok hfits] at hparse

/-- An opening parenthesis and a sum without its right operand, before a semicolon.  The end of the
input is missing. -/
def openSum : List Token :=
  [⟨.leftParen, "(", none, 1⟩, ⟨.keyword .trueWord, "true", none, 1⟩, ⟨.plus, "+", none, 2⟩,
    ⟨.semicolon, ";", none, 3⟩]

/-- The semicolon is what is wrong, and closing the parentheses behind it does not help. -/
theorem read_openSum_closed :
    Carrying openSum ∧
    ((ofTokens openSum).read .expression).1 = .error ⟨.expectedExpression ";", 3⟩ ∧
    ((ofTokens openSum).read .expression).2.cursor (Stream.ofTokens openSum).tokens = 3 ∧
    (∃ more e, Derives .expression (openSum.take 3 ++ more) e) ∧
    ((ofTokens (openSum ++ [.closing])).read .expression).1 =
      .error ⟨.expectedExpression ";", 3⟩ ∧
    ∀ p e, ¬ Heads (openSum ++ [.closing]) p e := by
  have hcarry : Carrying openSum := by
    unfold Carrying
    decide
  have herror : ((ofTokens openSum).read .expression).1 = .error ⟨.expectedExpression ";", 3⟩ := by
    decide +kernel
  have hcursor :
      ((ofTokens openSum).read .expression).2.cursor (Stream.ofTokens openSum).tokens = 3 := by
    decide +kernel
  obtain ⟨hsame, hearliest, -⟩ := read_decided_by_lookahead openSum
  rw [hcursor] at hsame hearliest
  have hagree : (Stream.ofTokens (openSum ++ [.closing])).tokens.take (3 + 1) =
      (Stream.ofTokens openSum).tokens.take (3 + 1) := by decide
  obtain ⟨-, hviable, hnone⟩ := hearliest hcarry _ ";" herror (.inl rfl)
  exact ⟨hcarry, herror, hcursor, hviable, (hsame _ hagree).1.trans herror, (hnone _ hagree).2⟩

end Parser

end Reckon
