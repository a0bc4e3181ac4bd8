import Reckon.Expr.Eval
import Reckon.Proofs.Reading

/-!
# What a failure names

Reading and evaluation fail at a token: the diagnostic is on its line and names it.

**Building.**  Apart from its first token, a rule reads one thing and then goes on behind it
(`andThen`), so it fails in the one or in the other (`andThen_eq_error`).

**Reading.**  `Blames room reader` says all that later proofs need of a failure of the reader: what
is wrong is blamed on a token that was still to be read, reading stopped at a point of the stream,
and no more levels were left open than there was room for.  There is one lemma for each way in which
rules are built, as for `Recognizes`, which is needed along with it: a failure behind something that
was read is one behind less.

**Evaluation.**  An expression fails at one of its operators (`Expr.exists_of_eval_eq_error`), and
the operators of a derived expression are among the tokens that it is derived from
(`Derives.mem_of_mem_operators`).
-/

namespace Reckon

open Rules (Level)

/-! ## How rules are built -/

/-- Reads on from where reading ended, if it succeeded. -/
def andThen (first : Except Stop (Expr × Stream)) (next : Expr → Reader) :
    Except Stop (Expr × Stream) :=
  match first with
  | .error stop => .error stop
  | .ok (e, rest) => next e rest

/-- What is read behind an opening parenthesis and an expression. -/
def Rules.closing (opening : Token) (inner : Expr) : Reader := fun s =>
  match s.accept? [.rightParen] with
  | none => .error ⟨⟨.unterminatedGrouping s.current.describe, s.current.line⟩, s, 0⟩
  | some (_, rest) => Rules.node opening (.grouping inner) rest

lemma Rules.binary_eq (level : Level) (operand : Reader) (s : Stream) :
    Rules.binary level operand s = andThen (operand s) (Rules.chain level operand) := rfl

lemma Rules.grouping_eq (deeper : Option Reader) (s : Stream) :
    Rules.grouping deeper s =
      andThen (Rules.nested deeper Rules.equality s.advance.2) (Rules.closing s.advance.1) := rfl

lemma Rules.unary_eq (deeper : Option Reader) (s : Stream) :
    Rules.unary deeper s = match s.accept? [.minus, .bang] with
      | none => Rules.primary deeper s
      | some (operator, behind) => andThen (Rules.nested deeper id behind)
          fun operand => Rules.node operator (.unary operator operand) := rfl

lemma andThen_eq_error {first : Except Stop (Expr × Stream)} {next : Expr → Reader} {stop : Stop}
    (h : andThen first next = .error stop) :
    first = .error stop ∨ ∃ e rest, first = .ok (e, rest) ∧ next e rest = .error stop := by
  cases first with
  | error stop' => exact .inl h
  | ok result => exact .inr ⟨result.1, result.2, rfl, h⟩

lemma andThen_eq_ok {first : Except Stop (Expr × Stream)} {next : Expr → Reader}
    {result : Expr × Stream} (h : andThen first next = .ok result) :
    ∃ e rest, first = .ok (e, rest) ∧ next e rest = .ok result := by
  cases first with
  | error stop => cases h
  | ok result => exact ⟨result.1, result.2, rfl, h⟩

lemma TooDeep.andThen {first : Except Stop (Expr × Stream)} (h : TooDeep first)
    (next : Expr → Reader) : TooDeep (andThen first next) := by
  obtain ⟨stop, rfl, hfault⟩ := h
  exact ⟨stop, rfl, hfault⟩

/-! ## Points of a stream -/

namespace Stream

/-- All tokens still to be read, with the end of the input. -/
def tokens (s : Stream) : List Token :=
  s.pending ++ [s.final]

/-- The other stream is a later point of this one: the tokens between the two have been read, and
none of them is an end of the input. -/
def Reaches (s rest : Stream) : Prop :=
  ∃ p q, s.pending = p ++ q ∧ rest = s.withPending q ∧ ∀ t ∈ p, t.isEnd = false

lemma Reaches.refl (s : Stream) : s.Reaches s :=
  ⟨[], s.pending, rfl, rfl, by simp⟩

lemma Reaches.trans {s₁ s₂ s₃ : Stream} (h : s₁.Reaches s₂) (h' : s₂.Reaches s₃) :
    s₁.Reaches s₃ := by
  obtain ⟨p, q, hq, rfl, hp⟩ := h
  obtain ⟨p', q', hq', rfl, hp'⟩ := h'
  refine ⟨p ++ p', q', ?_, rfl, ?_⟩
  · rw [hq, List.append_assoc]
    exact congrArg (p ++ ·) hq'
  · intro t ht
    exact (List.mem_append.mp ht).elim (hp t) (hp' t)

lemma Reaches.tokens_subset {s rest : Stream} (h : s.Reaches rest) : rest.tokens ⊆ s.tokens := by
  obtain ⟨p, q, hq, rfl, -⟩ := h
  intro t ht
  simp only [tokens, withPending, hq, List.mem_append] at ht ⊢
  tauto

lemma current_mem_tokens (s : Stream) : s.current ∈ s.tokens := by
  cases hp : s.pending with
  | nil => simp [current, tokens, hp]
  | cons t q => simp [current, tokens, hp]

lemma advance_fst (s : Stream) : s.advance.1 = s.current := by
  cases hp : s.pending with
  | nil => simp [advance, current, hp]
  | cons t q =>
      simp only [advance, current, hp, List.headD_cons]
      split <;> rfl

/-- Reading a token leads to the next, or nowhere at an end of the input. -/
lemma reaches_advance (s : Stream) : s.Reaches s.advance.2 := by
  cases hp : s.pending with
  | nil => simpa [advance, hp] using Reaches.refl s
  | cons t q =>
      by_cases hend : t.isEnd
      · simpa [advance, hp, hend] using Reaches.refl s
      · exact ⟨[t], q, hp, by simp [advance, hp, hend], by simp [hend]⟩

/-- An accepted token was still to be read, and the stream moves behind it. -/
lemma reaches_of_accept? {s rest : Stream} {t : Token} {kinds : List Token.Kind}
    (h : s.accept? kinds = some (t, rest)) : t ∈ s.tokens ∧ s.Reaches rest := by
  simp only [accept?, Option.ite_none_right_eq_some, Option.some.injEq] at h
  obtain ⟨-, hadv⟩ := h
  have ht : t = s.current := by rw [← s.advance_fst, hadv]
  have hrest : rest = s.advance.2 := by rw [hadv]
  exact ⟨ht ▸ s.current_mem_tokens, hrest ▸ s.reaches_advance⟩

/-- A list of tokens that ends with the end of the input is what is read. -/
lemma tokens_ofTokens (front : List Token) (line : Nat) :
    (Stream.ofTokens (front ++ [Token.endAt line])).tokens = front ++ [Token.endAt line] := by
  simp [ofTokens, tokens, Token.endAt]

end Stream

/-- What was read leads to what is behind it. -/
lemma Spans.reaches {n : Category} {e : Expr} {s rest : Stream} (h : Spans n e s rest) :
    s.Reaches rest := by
  obtain ⟨p, q, hq, rfl, hder, -⟩ := h
  exact ⟨p, q, hq, rfl, hder.isEnd_eq_false⟩

/-! ## Reading -/

/-- The diagnostics that reading can have of a token. -/
inductive Token.Blamed (t : Token) : Diagnostic → Prop where
  | tooDeep : Token.Blamed t t.tooDeep
  | expected : Token.Blamed t ⟨.expectedExpression t.describe, t.line⟩
  | unclosed : Token.Blamed t ⟨.unterminatedGrouping t.describe, t.line⟩

/-- How reading a stream can fail: for a token of the stream, at a point of it, and with no more
levels left open than there was room for. -/
structure Stream.Halts (s : Stream) (room : Nat) (stop : Stop) : Prop where
  blamed : ∃ t ∈ s.tokens, t.Blamed stop.diagnostic
  reaches : s.Reaches stop.rest
  leftOpen_le : stop.leftOpen ≤ room

/-- Whatever the reader fails with, it fails as reading a stream can. -/
def Blames (room : Nat) (reader : Reader) : Prop :=
  ∀ ⦃s : Stream⦄ ⦃stop : Stop⦄, reader s = .error stop → s.Halts room stop

namespace Stream

/-- A failure further on is one from here on. -/
lemma Halts.of_reaches {s rest : Stream} {room : Nat} {stop : Stop} (h : rest.Halts room stop)
    (hs : s.Reaches rest) : s.Halts room stop := by
  obtain ⟨⟨t, ht, hblamed⟩, hreaches, hopen⟩ := h
  exact ⟨⟨t, hs.tokens_subset ht, hblamed⟩, hs.trans hreaches, hopen⟩

/-- A failure that leaves no level open. -/
lemma halts_of_blamed {s rest : Stream} {room : Nat} {t : Token} {d : Diagnostic}
    (ht : t ∈ s.tokens) (hblamed : t.Blamed d) (hs : s.Reaches rest) : s.Halts room ⟨d, rest, 0⟩ :=
  ⟨⟨t, ht, hblamed⟩, hs, Nat.zero_le room⟩

end Stream

lemma Rules.node_eq_error {t : Token} {e : Expr} {s : Stream} {stop : Stop}
    (h : Rules.node t e s = .error stop) : stop = ⟨t.tooDeep, s, 0⟩ := by
  simp only [Rules.node] at h
  split at h
  · exact (Except.error.inj h).symm
  · cases h

/-- A level that cannot be opened is refused where it would be; inside of one that was opened, the
failure leaves one level more open. -/
lemma Rules.nested_eq_error {room : Nat} {rule : Reader → Reader} {s : Stream} {stop : Stop}
    (h : Rules.nested (Rules.deeper room) rule s = .error stop) :
    room = 0 ∧ stop = ⟨s.current.tooDeep, s, 0⟩ ∨ ∃ below inner, room = below + 1 ∧
      rule (Category.unary.rule.read below) s = .error inner ∧
      stop = { inner with leftOpen := inner.leftOpen + 1 } := by
  cases room with
  | zero => exact .inl ⟨rfl, (Except.error.inj h).symm⟩
  | succ below =>
      simp only [Rules.nested, Rules.deeper] at h
      split at h
      · cases h
      · rename_i inner hread
        exact .inr ⟨below, inner, rfl, hread, (Except.error.inj h).symm⟩

namespace Blames

variable {room : Nat}

lemma chain {level : Level} {operand : Reader} (hrec : Recognizes level.operand operand)
    (h : Blames room operand) {l : Expr} {s : Stream} {stop : Stop}
    (hstop : Rules.chain level operand l s = .error stop) : s.Halts room stop := by
  fun_induction Rules.chain level operand l s with
  | case1 => cases hstop
  | case2 l s operator behind hsome stop' hread =>
      obtain rfl : stop' = stop := by simpa using hstop
      exact (h hread).of_reaches (Stream.reaches_of_accept? hsome).2
  | case3 l s operator behind hsome r rest hread hdepth =>
      obtain rfl := Except.error.inj hstop
      obtain ⟨hmem, hbehind⟩ := Stream.reaches_of_accept? hsome
      exact Stream.halts_of_blamed hmem .tooDeep (hbehind.trans (hrec hread).reaches)
  | case4 l s operator behind hsome r rest hread hdepth ih =>
      have hbehind := (ih hstop).of_reaches (hrec hread).reaches
      exact hbehind.of_reaches (Stream.reaches_of_accept? hsome).2

lemma binary {level : Level} {operand : Reader} (hrec : Recognizes level.operand operand)
    (h : Blames room operand) : Blames room (Rules.binary level operand) := by
  intro s stop hstop
  rw [Rules.binary_eq] at hstop
  rcases andThen_eq_error hstop with hread | ⟨l, rest, hread, hchain⟩
  · exact h hread
  · exact (chain hrec h hchain).of_reaches (hrec hread).reaches

lemma factor {unary : Reader} (hrec : Recognizes .unary unary) (h : Blames room unary) :
    Blames room (Rules.factor unary) :=
  binary hrec h

lemma term {unary : Reader} (hrec : Recognizes .unary unary) (h : Blames room unary) :
    Blames room (Rules.term unary) :=
  binary hrec.factor (factor hrec h)

lemma comparison {unary : Reader} (hrec : Recognizes .unary unary) (h : Blames room unary) :
    Blames room (Rules.comparison unary) :=
  binary hrec.term (term hrec h)

lemma equality {unary : Reader} (hrec : Recognizes .unary unary) (h : Blames room unary) :
    Blames room (Rules.equality unary) :=
  binary hrec.comparison (comparison hrec h)

/-- A level that cannot be opened is blamed on the token behind it, and one that was opened stays
open where reading fails inside. -/
lemma nested {rule : Reader → Reader}
    (h : ∀ below < room, Blames below (rule (Rules.unary (Rules.deeper below)))) :
    Blames room (Rules.nested (Rules.deeper room) rule) := by
  intro s stop hstop
  rcases Rules.nested_eq_error hstop with ⟨-, rfl⟩ | ⟨below, inner, rfl, hread, rfl⟩
  · exact Stream.halts_of_blamed s.current_mem_tokens .tooDeep (.refl s)
  · obtain ⟨hblamed, hreaches, hopen⟩ := h below (Nat.lt_succ_self below) hread
    exact ⟨hblamed, hreaches, Nat.succ_le_succ hopen⟩

lemma carried {s : Stream} {stop : Stop} (hk : s.current.kind ∈ [Token.Kind.number, .string])
    (hstop : Rules.carried s = .error stop) : s.Halts room stop := by
  simp only [Rules.carried] at hstop
  split at hstop
  · cases hstop
  · obtain rfl := Except.error.inj hstop
    have hend := Token.isEnd_eq_false_of_mem hk (by decide)
    have hname : s.current.lexeme = s.current.describe := by simp [Token.describe, hend]
    rw [s.advance_fst, hname]
    exact Stream.halts_of_blamed s.current_mem_tokens .expected s.reaches_advance

/-- The current token is taken for the opening parenthesis, whatever it is. -/
lemma grouping (h : ∀ below < room, Blames below (Rules.unary (Rules.deeper below))) :
    Blames room (Rules.grouping (Rules.deeper room)) := by
  intro s stop hstop
  have hinner : Blames room (Rules.nested (Rules.deeper room) Rules.equality) :=
    nested fun below hbelow => equality (recognizes_read .unary below) (h below hbelow)
  rw [Rules.grouping_eq, s.advance_fst] at hstop
  rcases andThen_eq_error hstop with hread | ⟨inner, rest, hread, hclosing⟩
  · exact (hinner hread).of_reaches s.reaches_advance
  · obtain ⟨unary, hunary, hok⟩ := Rules.nested_eq_ok hread
    have hrest : s.Reaches rest :=
      s.reaches_advance.trans ((recognizes_deeper room unary hunary).equality hok).reaches
    simp only [Rules.closing] at hclosing
    split at hclosing
    · obtain rfl := Except.error.inj hclosing
      have hmem := hrest.tokens_subset rest.current_mem_tokens
      exact Stream.halts_of_blamed hmem .unclosed hrest
    · rename_i closing last hclose
      obtain rfl := Rules.node_eq_error hclosing
      have hlast := hrest.trans (Stream.reaches_of_accept? hclose).2
      exact Stream.halts_of_blamed s.current_mem_tokens .tooDeep hlast

lemma primary (h : ∀ below < room, Blames below (Rules.unary (Rules.deeper below))) :
    Blames room (Rules.primary (Rules.deeper room)) := by
  intro s stop hstop
  simp only [Rules.primary] at hstop
  split at hstop
  · cases hstop
  · cases hstop
  · cases hstop
  · rename_i hk
    exact carried (by simp [hk]) hstop
  · rename_i hk
    exact carried (by simp [hk]) hstop
  · exact grouping h hstop
  · obtain rfl := Except.error.inj hstop
    exact Stream.halts_of_blamed s.current_mem_tokens .expected (.refl s)

lemma unary (h : ∀ below < room, Blames below (Rules.unary (Rules.deeper below))) :
    Blames room (Rules.unary (Rules.deeper room)) := by
  intro s stop hstop
  rw [Rules.unary_eq] at hstop
  split at hstop
  · exact primary h hstop
  · rename_i operator behind hsome
    obtain ⟨hmem, hbehind⟩ := Stream.reaches_of_accept? hsome
    have hoperand : Blames room (Rules.nested (Rules.deeper room) id) := nested h
    rcases andThen_eq_error hstop with hread | ⟨operand, rest, hread, hnode⟩
    · exact (hoperand hread).of_reaches hbehind
    · obtain ⟨unary, hunary, hok⟩ := Rules.nested_eq_ok hread
      obtain rfl := Rules.node_eq_error hnode
      have hrest := hbehind.trans (recognizes_deeper room unary hunary hok).reaches
      exact Stream.halts_of_blamed hmem .tooDeep hrest

end Blames

/-- With any room, the rule for prefix operators fails as reading a stream can. -/
lemma blames_unary (room : Nat) : Blames room (Rules.unary (Rules.deeper room)) := by
  induction room using Nat.strongRecOn with
  | ind room ih => exact Blames.unary ih

/-- **A rule blames a token, stays on the stream and keeps to its room.** -/
theorem blames_read (rule : Rule) (room : Nat) : Blames room (rule.read room) := by
  have hrec := recognizes_read .unary room
  have hunary := blames_unary room
  cases rule with
  | expression => exact Blames.equality hrec hunary
  | equality => exact Blames.equality hrec hunary
  | comparison => exact Blames.comparison hrec hunary
  | term => exact Blames.term hrec hunary
  | factor => exact Blames.factor hrec hunary
  | unary => exact hunary
  | primary => exact Blames.primary fun below _ => blames_unary below
  | grouping => exact Blames.grouping fun below _ => blames_unary below

/-- **Parsing blames a token.**  What parsing fails with is on the line of a token and names it. -/
theorem exists_of_parse_eq_error {front : List Token} {line : Nat} {d : Diagnostic}
    (h : parse (front ++ [Token.endAt line]) = .error d) :
    ∃ t ∈ front ++ [Token.endAt line], t.Blamed d := by
  obtain ⟨stop, hread, rfl⟩ := read_of_parse_eq_error h
  have hhalts := blames_read .expression maxDepth hread
  rw [← Stream.tokens_ofTokens]
  exact hhalts.blamed

/-! ## Evaluation -/

/-- The operators of an expression, each behind those of its operands. -/
def Expr.operators : Expr → List Token
  | .literal _ => []
  | .grouping inner => inner.operators
  | .unary operator operand => operand.operators ++ [operator]
  | .binary left operator right => left.operators ++ right.operators ++ [operator]

/-- The diagnostics that evaluation can have of an operator. -/
inductive Token.Refuses (t : Token) : Diagnostic → Prop where
  | mismatch (why : Mismatch) : Token.Refuses t (t.mismatch why)
  | unsupported : Token.Refuses t t.unsupported

lemma Token.refuses_of_mapError {t : Token} {x : Except Mismatch Value} {d : Diagnostic}
    (h : x.mapError t.mismatch = .error d) : t.Refuses d := by
  cases x with
  | ok v => cases h
  | error why =>
      obtain rfl := Except.error.inj h
      exact .mismatch why

lemma Token.refuses_of_applyUnary {t : Token} {v : Value} {d : Diagnostic}
    (h : t.applyUnary v = .error d) : t.Refuses d := by
  simp only [applyUnary] at h
  split at h
  · exact refuses_of_mapError h
  · obtain rfl := Except.error.inj h
    exact .unsupported

lemma Token.refuses_of_applyBinary {t : Token} {v w : Value} {d : Diagnostic}
    (h : t.applyBinary v w = .error d) : t.Refuses d := by
  simp only [applyBinary] at h
  split at h
  · exact refuses_of_mapError h
  · obtain rfl := Except.error.inj h
    exact .unsupported

/-- A computation in two steps fails in the first or in the second. -/
lemma bind_eq_error {α β ε : Type} {x : Except ε α} {f : α → Except ε β} {d : ε}
    (h : (x >>= f) = .error d) : x = .error d ∨ ∃ a, x = .ok a ∧ f a = .error d := by
  cases x with
  | error d' =>
      obtain rfl := Except.error.inj h
      exact .inl rfl
  | ok a => exact .inr ⟨a, rfl, h⟩

/-- A computation in two steps that succeeds does so in both. -/
lemma bind_eq_ok {α β ε : Type} {x : Except ε α} {f : α → Except ε β} {b : β}
    (h : (x >>= f) = .ok b) : ∃ a, x = .ok a ∧ f a = .ok b := by
  cases x with
  | error d => cases h
  | ok a => exact ⟨a, rfl, h⟩

/-- **Evaluation fails at an operator**, which is one of the expression's own. -/
theorem Expr.exists_of_eval_eq_error {e : Expr} {d : Diagnostic} (h : e.eval = .error d) :
    ∃ t ∈ e.operators, t.Refuses d := by
  induction e with
  | literal v => cases h
  | grouping inner ih => exact ih h
  | unary operator operand ih =>
      simp only [operators, List.mem_append, List.mem_singleton]
      rcases bind_eq_error h with h | ⟨v, -, h⟩
      · obtain ⟨t, ht, hrefuses⟩ := ih h
        exact ⟨t, .inl ht, hrefuses⟩
      · exact ⟨operator, .inr rfl, Token.refuses_of_applyUnary h⟩
  | binary left operator right ihl ihr =>
      simp only [operators, List.mem_append, List.mem_singleton]
      rcases bind_eq_error h with h | ⟨v, -, h⟩
      · obtain ⟨t, ht, hrefuses⟩ := ihl h
        exact ⟨t, .inl (.inl ht), hrefuses⟩
      rcases bind_eq_error h with h | ⟨w, -, h⟩
      · obtain ⟨t, ht, hrefuses⟩ := ihr h
        exact ⟨t, .inl (.inr ht), hrefuses⟩
      · exact ⟨operator, .inr rfl, Token.refuses_of_applyBinary h⟩

/-- Whether a kind of token is an operator, with one operand or with two. -/
def Token.Kind.isOperator (kind : Token.Kind) : Bool :=
  kind.unaryOp?.isSome || kind.binaryOp?.isSome

lemma Rules.Level.isOperator_of_mem {level : Level} {kind : Token.Kind}
    (h : kind ∈ level.operators) : kind.isOperator = true := by
  have hall : ∀ kind ∈ level.operators, kind.isOperator = true := by cases level <;> decide
  exact hall kind h

/-- The operators of an expression are among the tokens that it is derived from. -/
lemma Derives.mem_of_mem_operators {n : Category} {p : List Token} {e : Expr} (h : Derives n p e) :
    ∀ t ∈ e.operators, t ∈ p ∧ t.kind.isOperator = true := by
  induction h with
  | operand _ ih => exact ih
  | @binary level p q operator l r _ ho _ ihl ihr =>
      simp only [Expr.operators, List.mem_append, List.mem_cons, List.not_mem_nil, or_false]
      rintro t ((ht | ht) | rfl)
      · exact ⟨.inl (ihl t ht).1, (ihl t ht).2⟩
      · exact ⟨.inr (.inr (ihr t ht).1), (ihr t ht).2⟩
      · exact ⟨.inr (.inl rfl), Level.isOperator_of_mem ho⟩
  | @prefixed operator p e ho _ ih =>
      have hop : ∀ kind ∈ [Token.Kind.minus, .bang], kind.isOperator = true := by decide
      simp only [Expr.operators, List.mem_append, List.mem_cons, List.not_mem_nil, or_false]
      rintro t (ht | rfl)
      · exact ⟨.inr (ih t ht).1, (ih t ht).2⟩
      · exact ⟨.inl rfl, hop _ ho⟩
  | primary _ ih => exact ih
  | constant _ => simp [Expr.operators]
  | carried _ _ => simp [Expr.operators]
  | @grouping opening closing p e _ _ _ ih =>
      intro t ht
      exact ⟨by simp [(ih t ht).1], (ih t ht).2⟩

/-- What is parsed has its operators from the tokens. -/
lemma mem_of_parse_eq_ok {tokens : List Token} {e : Expr} (h : parse tokens = .ok e) :
    ∀ t ∈ e.operators, t ∈ tokens ∧ t.kind.isOperator = true := by
  intro t ht
  obtain ⟨p, ⟨q, hq, hder, -⟩, -⟩ := exists_heads_of_parse h
  obtain ⟨hmem, hop⟩ := hder.mem_of_mem_operators t ht
  have hbefore : t ∈ beforeEnd tokens := by rw [hq]; exact List.mem_append_left q hmem
  exact ⟨(List.takeWhile_prefix _).subset hbefore, hop⟩

end Reckon
