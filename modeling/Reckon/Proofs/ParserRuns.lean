import Reckon.Proofs.Failures

/-!
# Runs of a parser

What is true of a parser after any actions in any order, whether they succeed or fail.

**Movement.**  No action goes back on the stream or passes an end of the input (`Stream.Reaches`).
For skipping to a statement boundary this is an induction on the tokens skipped.  For the rules it
is what is known of their successes and failures: a rule that succeeds has read something
(`consumes_read`), and one that fails stays on the stream (`blames_read`).

**Levels.**  A rule that fails leaves levels open, but no more than there was room for, so at no
time are more open than the limit allows.

**Cursor.**  A stream forgets what has been read.  `Parser.cursor` counts it against all the tokens,
and `Parser.At` says where in the list of all tokens a parser stands.
-/

namespace Reckon

/-! ## Movement -/

namespace Stream

lemma Reaches.remaining_le {s rest : Stream} (h : s.Reaches rest) :
    rest.remaining ≤ s.remaining := by
  obtain ⟨p, q, hq, rfl, -⟩ := h
  simp [remaining, withPending, hq]

/-- What is skipped before a boundary holds no end of the input. -/
lemma exists_fromBoundary (previous : Token.Kind) (l : List Token) :
    ∃ p, l = p ++ fromBoundary previous l ∧ ∀ t ∈ p, t.isEnd = false := by
  induction l generalizing previous with
  | nil => exact ⟨[], rfl, by simp⟩
  | cons t l ih =>
      rw [fromBoundary]
      split
      · exact ⟨[], rfl, by simp⟩
      · rename_i hgo
        simp only [Bool.or_eq_true, not_or, Bool.not_eq_true] at hgo
        obtain ⟨p, hp, hends⟩ := ih t.kind
        refine ⟨t :: p, congrArg (t :: ·) hp, ?_⟩
        exact List.forall_mem_cons.mpr ⟨hgo.1.1, hends⟩

lemma reaches_synchronize (s : Stream) : s.Reaches s.synchronize := by
  obtain ⟨p, hp, hends⟩ := exists_fromBoundary s.advance.1.kind s.advance.2.pending
  exact s.reaches_advance.trans ⟨p, _, hp, rfl, hends⟩

end Stream

/-- No derivation is empty. -/
lemma Derives.ne_nil {n : Category} {p : List Token} {e : Expr} (h : Derives n p e) : p ≠ [] := by
  induction h with
  | operand _ ih => exact ih
  | primary _ ih => exact ih
  | _ => simp

/-- Reading has led further on, to an expression that is not too deep. -/
structure Consumes (s : Stream) (e : Expr) (rest : Stream) : Prop where
  reaches : s.Reaches rest
  remaining_lt : rest.remaining < s.remaining
  depth_le : e.depth ≤ maxDepth

lemma Spans.consumes {n : Category} {e : Expr} {s rest : Stream} (h : Spans n e s rest) :
    Consumes s e rest := by
  refine ⟨h.reaches, ?_, ?_⟩
  · obtain ⟨p, q, hq, rfl, hder, -⟩ := h
    have hpos := List.length_pos_iff.mpr hder.ne_nil
    simp only [Stream.remaining, Stream.withPending, hq, List.length_append]
    omega
  · obtain ⟨p, q, -, -, -, -, hd⟩ := h
    exact hd

/-- Parentheses are around something, whatever token is taken for the opening one. -/
lemma consumes_grouping {room : Nat} {s rest : Stream} {e : Expr}
    (h : Rules.grouping (Rules.deeper room) s = .ok (e, rest)) : Consumes s e rest := by
  simp only [Rules.grouping] at h
  split at h
  · cases h
  · rename_i inner behind hread
    obtain ⟨unary, hunary, hok⟩ := Rules.nested_eq_ok hread
    have hinner := ((recognizes_deeper room unary hunary).equality hok).consumes
    split at h
    · cases h
    · rename_i closing last hclose
      obtain ⟨-, hlast⟩ := Stream.reaches_of_accept? hclose
      obtain ⟨hresult, hd⟩ := Rules.node_eq_ok h
      obtain ⟨rfl, rfl⟩ := Prod.mk.inj hresult
      -- the opening token counts for nothing here: at an end of the input it is not read
      refine ⟨(s.reaches_advance.trans hinner.reaches).trans hlast, ?_, hd⟩
      calc rest.remaining ≤ behind.remaining := hlast.remaining_le
        _ < s.advance.2.remaining := hinner.remaining_lt
        _ ≤ s.remaining := s.reaches_advance.remaining_le

/-- **A rule that succeeds has read something.** -/
theorem consumes_read {rule : Rule} {room : Nat} {s rest : Stream} {e : Expr}
    (h : rule.read room s = .ok (e, rest)) : Consumes s e rest := by
  cases rule with
  | expression => exact (recognizes_read .expression room h).consumes
  | equality => exact (recognizes_read .expression room h).consumes
  | comparison => exact (recognizes_read (.level .comparison) room h).consumes
  | term => exact (recognizes_read (.level .term) room h).consumes
  | factor => exact (recognizes_read (.level .factor) room h).consumes
  | unary => exact (recognizes_read .unary room h).consumes
  | primary => exact (recognizes_read .primary room h).consumes
  | grouping => exact consumes_grouping h

namespace Parser

/-! ## Actions -/

/-- What can be done with a parser. -/
inductive Action where
  | advance
  | check (kind : Token.Kind)
  | accept (kinds : List Token.Kind)
  | expect (kind : Token.Kind) (otherwise : Diagnostic)
  | enter
  | leave
  | checkDepth (depth : Nat) (t : Token)
  | synchronize
  | read (rule : Rule)
  deriving DecidableEq, Repr

/-- What an action yields. -/
inductive Answer where
  | done
  | verdict (holds : Bool)
  | token (t : Token)
  | accepted (t : Option Token)
  | expected (result : Except Diagnostic Token)
  | allowed (result : Except Diagnostic Unit)
  | expression (result : Except Diagnostic Expr)

/-- Performs an action.  One that fails leaves the parser as it is, except for a rule, which leaves
it where it failed. -/
def perform (p : Parser) : Action → Answer × Parser
  | .advance => (.token p.advance.1, p.advance.2)
  | .check kind => (.verdict (p.stream.check kind), p)
  | .accept kinds =>
    match p.accept? kinds with
    | some (t, next) => (.accepted (some t), next)
    | none => (.accepted none, p)
  | .expect kind otherwise =>
    match p.expect kind otherwise with
    | .ok (t, next) => (.expected (.ok t), next)
    | .error d => (.expected (.error d), p)
  | .enter =>
    match p.enter with
    | .ok next => (.allowed (.ok ()), next)
    | .error d => (.allowed (.error d), p)
  | .leave => (.done, p.leave)
  | .checkDepth depth t => (.allowed (checkDepth depth t), p)
  | .synchronize => (.done, p.synchronize)
  | .read rule => (.expression (p.read rule).1, (p.read rule).2)

def after (p : Parser) (actions : List Action) : Parser :=
  actions.foldl (fun p action => (p.perform action).2) p

/-! ## What actions keep -/

/-- One parser comes from the other by going on, and keeps the limit on open levels. -/
structure Moves (p next : Parser) : Prop where
  reaches : p.stream.Reaches next.stream
  nesting_le : next.nesting ≤ maxDepth

lemma Moves.refl {p : Parser} (hp : p.nesting ≤ maxDepth) : p.Moves p :=
  ⟨.refl p.stream, hp⟩

lemma Moves.trans {p₁ p₂ p₃ : Parser} (h : p₁.Moves p₂) (h' : p₂.Moves p₃) : p₁.Moves p₃ :=
  ⟨h.reaches.trans h'.reaches, h'.nesting_le⟩

lemma moves_advance {p : Parser} (hp : p.nesting ≤ maxDepth) : p.Moves p.advance.2 :=
  ⟨p.stream.reaches_advance, hp⟩

/-- A rule that fails leaves open at most the room that it had. -/
lemma moves_read {p : Parser} (hp : p.nesting ≤ maxDepth) (rule : Rule) :
    p.Moves (p.read rule).2 := by
  simp only [read]
  cases hread : rule.read p.room p.stream with
  | ok result => exact ⟨(consumes_read hread).reaches, hp⟩
  | error stop =>
      have hhalts := blames_read rule p.room hread
      -- the room is what the limit leaves, so the levels left open fit under it
      have hopen : stop.leftOpen ≤ maxDepth - p.nesting := hhalts.leftOpen_le
      refine ⟨hhalts.reaches, ?_⟩
      show p.nesting + stop.leftOpen ≤ maxDepth
      omega

/-- **One action.** -/
theorem moves_perform {p : Parser} (hp : p.nesting ≤ maxDepth) (action : Action) :
    p.Moves (p.perform action).2 := by
  cases action with
  | advance => exact moves_advance hp
  | check kind => exact .refl hp
  | accept kinds =>
      simp only [perform, accept?]
      cases haccept : p.stream.accept? kinds with
      | none => exact .refl hp
      | some result => exact ⟨(Stream.reaches_of_accept? haccept).2, hp⟩
  | expect kind otherwise =>
      simp only [perform, expect]
      cases p.stream.check kind with
      | true => exact moves_advance hp
      | false => exact .refl hp
  | enter =>
      simp only [perform, enter]
      by_cases hfull : maxDepth ≤ p.nesting
      · simpa only [hfull, if_true] using Moves.refl hp
      · simp only [hfull, if_false]
        exact ⟨.refl p.stream, Nat.lt_of_not_le hfull⟩
  | leave => exact ⟨.refl p.stream, Nat.le_trans (Nat.sub_le _ _) hp⟩
  | checkDepth depth t => exact .refl hp
  | synchronize => exact ⟨p.stream.reaches_synchronize, hp⟩
  | read rule => exact moves_read hp rule

/-- **Any actions.** -/
theorem moves_after {p : Parser} (hp : p.nesting ≤ maxDepth) (actions : List Action) :
    p.Moves (p.after actions) := by
  induction actions generalizing p with
  | nil => exact .refl hp
  | cons action actions ih =>
      have hstep := moves_perform hp action
      exact hstep.trans (ih hstep.nesting_le)

end Parser

/-! ## The cursor -/

/-- The tokens that a parser starts with are those it is given, and it adds an end of the input
where there is none. -/
lemma Stream.tokens_ofTokens_eq (tokens : List Token) :
    (Stream.ofTokens tokens).tokens = tokens ∨
      ∃ line, (Stream.ofTokens tokens).tokens = tokens ++ [Token.endAt line] := by
  simp only [ofTokens]
  split
  · rename_i hlast
    obtain rfl := List.getLast?_eq_none_iff.mp hlast
    exact .inr ⟨1, rfl⟩
  · rename_i last hlast
    split
    · obtain ⟨front, rfl⟩ := List.getLast?_eq_some_iff.mp hlast
      exact .inl (by simp [Stream.tokens])
    · exact .inr ⟨last.line, rfl⟩

/-- The tokens that have been read stand before those that have not, and none is an end of the
input. -/
lemma Stream.Reaches.tokens_eq {s rest : Stream} (h : s.Reaches rest) :
    ∃ p, s.tokens = p ++ rest.tokens ∧ ∀ t ∈ p, t.isEnd = false := by
  obtain ⟨p, q, hq, rfl, hp⟩ := h
  exact ⟨p, by simp [Stream.tokens, Stream.withPending, hq], hp⟩

namespace Parser

/-- The place of the current token among all tokens: the number of those that have been read. -/
def cursor (all : List Token) (p : Parser) : Nat :=
  all.length - p.stream.tokens.length

/-- Where a parser stands among all its tokens.  They end with an end of the input, they are still
the same, the cursor is not behind the first end of the input, and it is the place of the current
token.  No more levels are open than the limit allows. -/
structure At (all : List Token) (p : Parser) : Prop where
  last_isEnd : ∃ last ∈ all.getLast?, last.isEnd = true
  tokens_eq : all = all.take (p.cursor all) ++ p.stream.tokens
  cursor_le : p.cursor all ≤ all.findIdx Token.isEnd
  current_eq : all[p.cursor all]? = some p.stream.current
  remaining_eq : p.cursor all + 1 + p.stream.remaining = all.length
  nesting_le : p.nesting ≤ maxDepth

lemma cursor_eq {all read : List Token} {p : Parser} (h : all = read ++ p.stream.tokens) :
    p.cursor all = read.length := by
  simp [cursor, h]

lemma Moves.at_tokens {p next : Parser} (h : p.Moves next) : next.At p.stream.tokens := by
  obtain ⟨read, hread, hends⟩ := h.reaches.tokens_eq
  have hcursor : next.cursor p.stream.tokens = read.length := cursor_eq hread
  have hlast : p.stream.final ∈ p.stream.tokens.getLast? := by simp [Stream.tokens]
  have hfirst : read.length ≤ p.stream.tokens.findIdx Token.isEnd := by
    rw [hread]
    refine List.le_findIdx_of_not (by simp [Stream.tokens]) ?_
    intro j hj
    rw [List.getElem_append_left hj]
    exact hends _ (List.getElem_mem hj)
  have hcurrent : p.stream.tokens[read.length]? = some next.stream.current := by
    rw [hread, List.getElem?_append_right (Nat.le_refl _), Nat.sub_self]
    cases hp : next.stream.pending <;> simp [Stream.tokens, Stream.current, hp]
  have hlength : read.length + 1 + next.stream.remaining = p.stream.tokens.length := by
    rw [hread]
    simp only [Stream.tokens, Stream.remaining, List.length_append, List.length_singleton]
    omega
  rw [← hcursor] at hfirst hcurrent hlength
  refine ⟨⟨_, hlast, ?_⟩, ?_, hfirst, hcurrent, hlength, h.nesting_le⟩
  · simp [Token.isEnd, p.stream.final_isEnd]
  · rw [hcursor, hread, List.take_left]

lemma consumes_of_perform {p next : Parser} {rule : Rule} {e : Expr}
    (h : p.perform (.read rule) = (.expression (.ok e), next)) :
    Consumes p.stream e next.stream ∧ next.nesting = p.nesting := by
  simp only [perform, read] at h
  cases hread : rule.read p.room p.stream with
  | ok result =>
      simp only [hread, Prod.mk.injEq, Answer.expression.injEq, Except.ok.injEq] at h
      obtain ⟨rfl, rfl⟩ := h
      exact ⟨consumes_read hread, rfl⟩
  | error stop => simp [hread] at h

/-- **A parser keeps its place.**  Whatever is done with a parser, and whether it succeeds or fails,
the parser stands among the tokens it was given, at or before the first end of the input, with no
more levels open than the limit allows, and whatever is done next it does not go back.  A rule that
succeeds has read a token, has closed what it opened, and its expression is not too deep. -/
theorem at_after_and_consumes (tokens : List Token) (actions : List Action) :
    let all := (Stream.ofTokens tokens).tokens
    let p := (ofTokens tokens).after actions
    (all = tokens ∨ ∃ line, all = tokens ++ [Token.endAt line]) ∧ p.At all ∧
    (∀ more, p.cursor all ≤ (p.after more).cursor all) ∧
    ∀ rule e next, p.perform (.read rule) = (.expression (.ok e), next) →
      p.cursor all < next.cursor all ∧ next.nesting = p.nesting ∧ e.depth ≤ maxDepth := by
  intro all p
  have hstart : (ofTokens tokens).Moves p := moves_after (Nat.zero_le maxDepth) actions
  have hp : p.At all := hstart.at_tokens
  refine ⟨Stream.tokens_ofTokens_eq tokens, hp, fun more => ?_, fun rule e next h => ?_⟩
  · have hmoves := moves_after hp.nesting_le more
    have hmore : (p.after more).At all := (hstart.trans hmoves).at_tokens
    have hleft := hmoves.reaches.remaining_le
    have hplace := hp.remaining_eq
    have hplace' := hmore.remaining_eq
    omega
  · obtain ⟨hconsumes, hnesting⟩ := consumes_of_perform h
    have hmoves : p.Moves next := ⟨hconsumes.reaches, hnesting ▸ hp.nesting_le⟩
    have hnext : next.At all := (hstart.trans hmoves).at_tokens
    refine ⟨?_, hnesting, hconsumes.depth_le⟩
    have hleft := hconsumes.remaining_lt
    have hplace := hp.remaining_eq
    have hplace' := hnext.remaining_eq
    omega

/-- A minus sign without an operand, and a constant behind a semicolon.  The end of the input is
missing. -/
def minusWithout : List Token :=
  [⟨.minus, "-", none, 1⟩, ⟨.semicolon, ";", none, 1⟩, ⟨.keyword .trueWord, "true", none, 2⟩]

/-- The minus sign fails and leaves its level open, and the constant is still read. -/
theorem read_behind_minusWithout :
    let all := (Stream.ofTokens minusWithout).tokens
    let p := (ofTokens minusWithout).after [.read .unary, .advance]
    p.nesting = 1 ∧ p.At all ∧ ∃ next,
      p.perform (.read .unary) = (.expression (.ok (.literal (.bool true))), next) ∧
      p.cursor all < next.cursor all ∧ next.nesting = 1 := by
  intro all p
  obtain ⟨-, hat, -, hread⟩ := at_after_and_consumes minusWithout [.read .unary, .advance]
  have hok : p.perform (.read .unary) = (.expression (.ok (.literal (.bool true))), _) := rfl
  obtain ⟨hcursor, hnesting, -⟩ := hread .unary _ _ hok
  exact ⟨rfl, hat, _, hok, hcursor, hnesting⟩

end Parser

end Reckon
