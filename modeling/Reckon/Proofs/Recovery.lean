import Reckon.Proofs.Lookahead

/-!
# Reading on behind a failure

A parser that loops over statements goes on behind an expression that it cannot read: it skips to
the next statement and reads there.  It should then read as a new parser would.

**Levels left open.**  A rule that fails does not close the levels it is within, and these are those
around the obstacle (`Rule.interrupted_of_read`).

**Less room.**  What has been left open is missing later.  With less room, reading comes to the same
or is refused for its depth (`Shallower`).  There is one lemma for each way in which rules are
built, and the recursion on the room closes the circle.

**Recovery.**  So a parser behind failures reads as a new parser over the same tokens does, as long
as no level is left open (`read_of_recovered`).  After a hundred failures it refuses what a new
parser reads (`not_restored_by_synchronize`).
-/

namespace Reckon

open Rules (Level)

/-! ## Levels left open -/

/-- Reading by a rule, with room for a number of levels, stopped at an obstacle within the levels
left open. -/
def Rule.Interrupted (rule : Rule) (room : Nat) (s : Stream) (stop : Stop) : Prop :=
  match rule with
  | .expression | .equality => Reckon.Interrupted .expression room s stop
  | .comparison => Reckon.Interrupted (.level .comparison) room s stop
  | .term => Reckon.Interrupted (.level .term) room s stop
  | .factor => Reckon.Interrupted (.level .factor) room s stop
  | .unary => Reckon.Interrupted .unary room s stop
  | .primary => Reckon.Interrupted .primary room s stop
  | .grouping => GroupingStops s room stop

/-- **A rule that fails leaves open the levels around the obstacle.** -/
theorem Rule.interrupted_of_read {rule : Rule} {room : Nat} {s : Stream} {stop : Stop}
    (h : rule.read room s = .error stop) : rule.Interrupted room s stop := by
  cases rule with
  | expression => exact interrupts_read .expression room h
  | equality => exact interrupts_read .expression room h
  | comparison => exact interrupts_read (.level .comparison) room h
  | term => exact interrupts_read (.level .term) room h
  | factor => exact interrupts_read (.level .factor) room h
  | unary => exact interrupts_read .unary room h
  | primary => exact interrupts_read .primary room h
  | grouping => exact Interrupts.grouping (fun below _ => interrupts_unary below) h

/-! ## Less room -/

/-- Reading came to the same as other reading, or was refused for the depth. -/
def SameOrTooDeep (limited result : Except Stop (Expr × Stream)) : Prop :=
  limited = result ∨ TooDeep limited

/-- The first reader does what the second does, except that it refuses more for the depth. -/
def Shallower (limited reader : Reader) : Prop :=
  ∀ s, SameOrTooDeep (limited s) (reader s)

lemma SameOrTooDeep.andThen {limited result : Except Stop (Expr × Stream)}
    {next next' : Expr → Reader} (h : SameOrTooDeep limited result)
    (hnext : ∀ e, Shallower (next e) (next' e)) :
    SameOrTooDeep (andThen limited next) (andThen result next') := by
  rcases h with rfl | hdeep
  · cases limited with
    | error stop => exact .inl rfl
    | ok result => exact hnext result.1 result.2
  · exact .inr (hdeep.andThen next)

namespace Shallower

lemma refl (reader : Reader) : Shallower reader reader :=
  fun _ => .inl rfl

lemma joining {level : Level} {limited operand : Reader} {l : Expr} {operator : Token} {r : Expr}
    (h : (Expr.binary l operator r).depth ≤ maxDepth →
      Shallower (Rules.chain level limited (.binary l operator r))
        (Rules.chain level operand (.binary l operator r))) :
    Shallower (Rules.joining level limited l operator r)
      (Rules.joining level operand l operator r) := by
  intro s
  simp only [Rules.joining]
  split
  · exact .inl rfl
  · rename_i hdepth
    exact h (Nat.le_of_not_lt hdepth) s

lemma chain {limited operand : Reader} (h : Shallower limited operand) (level : Level) (l : Expr) :
    Shallower (Rules.chain level limited l) (Rules.chain level operand l) := by
  induction l using Expr.growing_induction with
  | step l ih =>
      intro s
      rw [Rules.chain_eq, Rules.chain_eq]
      cases s.accept? level.operators with
      | none => exact .inl rfl
      | some result => exact (h result.2).andThen fun r => joining (ih result.1 r)

/-- A level from its operands, which are read with the same room. -/
lemma level {level : Level} {below room : Nat}
    (h : Shallower (level.operand.rule.read below) (level.operand.rule.read room)) :
    Shallower ((Category.level level).rule.read below) ((Category.level level).rule.read room) := by
  intro s
  rw [Category.read_level, Category.read_level, Rules.binary_eq, Rules.binary_eq]
  exact (h s).andThen (h.chain level)

lemma expression {below room : Nat}
    (h : Shallower (Category.unary.rule.read below) (Category.unary.rule.read room)) :
    Shallower (Category.expression.rule.read below) (Category.expression.rule.read room) :=
  level (level (level (level h)))

/-- One level less of room on both sides, or none left on the first. -/
lemma nested {below room : Nat} {rule : Reader → Reader} (hle : below ≤ room)
    (h : ∀ b r, b < below → b ≤ r →
      Shallower (rule (Category.unary.rule.read b)) (rule (Category.unary.rule.read r))) :
    Shallower (Rules.nested (Rules.deeper below) rule) (Rules.nested (Rules.deeper room) rule) := by
  intro s
  cases below with
  | zero => exact .inr (tooDeep_nested_zero rule s)
  | succ b =>
      obtain ⟨r, rfl⟩ := Nat.exists_eq_succ_of_ne_zero (by omega : room ≠ 0)
      rcases h b r (Nat.lt_succ_self b) (Nat.le_of_succ_le_succ hle) s with hsame | hdeep
      · refine .inl ?_
        change rule (Rules.unary (Rules.deeper b)) s =
          rule (Rules.unary (Rules.deeper r)) s at hsame
        simp only [Rules.nested, Rules.deeper, hsame]
      · obtain ⟨stop, hstop, hfault⟩ := hdeep
        change rule (Rules.unary (Rules.deeper b)) s = .error stop at hstop
        refine .inr ⟨{ stop with leftOpen := stop.leftOpen + 1 }, ?_, hfault⟩
        simp only [Rules.nested, Rules.deeper, hstop]

section Operands

variable {below room : Nat} (hle : below ≤ room)
  (h : ∀ b r, b < below → b ≤ r →
    Shallower (Category.unary.rule.read b) (Category.unary.rule.read r))

include hle h

lemma grouping :
    Shallower (Rules.grouping (Rules.deeper below)) (Rules.grouping (Rules.deeper room)) := by
  intro s
  have hinner : Shallower (Rules.nested (Rules.deeper below) Rules.equality)
      (Rules.nested (Rules.deeper room) Rules.equality) :=
    nested hle fun b r hb hr => expression (h b r hb hr)
  rw [Rules.grouping_eq, Rules.grouping_eq]
  exact (hinner _).andThen fun _ => .refl _

lemma primary :
    Shallower (Rules.primary (Rules.deeper below)) (Rules.primary (Rules.deeper room)) := by
  intro s
  simp only [Rules.primary]
  split
  · exact .inl rfl
  · exact .inl rfl
  · exact .inl rfl
  · exact .inl rfl
  · exact .inl rfl
  · exact grouping hle h s
  · exact .inl rfl

lemma unary : Shallower (Category.unary.rule.read below) (Category.unary.rule.read room) := by
  intro s
  have hinner : Shallower (Rules.nested (Rules.deeper below) id)
      (Rules.nested (Rules.deeper room) id) := nested hle h
  change SameOrTooDeep (Rules.unary (Rules.deeper below) s) (Rules.unary (Rules.deeper room) s)
  rw [Rules.unary_eq, Rules.unary_eq]
  cases s.accept? [.minus, .bang] with
  | none => exact primary hle h s
  | some result => exact (hinner result.2).andThen fun _ => .refl _

end Operands

end Shallower

lemma shallower_unary {below room : Nat} (hle : below ≤ room) :
    Shallower (Category.unary.rule.read below) (Category.unary.rule.read room) := by
  induction below using Nat.strongRecOn generalizing room with
  | ind below ih => exact Shallower.unary hle fun b r hb hr => ih b hb hr

/-- **With less room, reading comes to the same or is refused for the depth.** -/
theorem shallower_expression {below room : Nat} (hle : below ≤ room) :
    Shallower (Rule.expression.read below) (Rule.expression.read room) :=
  Shallower.expression (shallower_unary hle)

/-- What is read with some room is read with another exactly if it has no more levels than that. -/
lemma read_eq_ok_iff_of_read {room other : Nat} {s rest : Stream} {e : Expr}
    (h : Rule.expression.read room s = .ok (e, rest)) :
    (∃ rest', Rule.expression.read other s = .ok (e, rest')) ↔ e.nesting ≤ other := by
  obtain ⟨p, q, hq, -, hder, hstop, hdepth⟩ := recognizes_read .expression room h
  obtain ⟨hfits, hdeep⟩ := hder.reads.within hq hstop other
  constructor
  · rintro ⟨rest', hok⟩
    by_contra hnesting
    obtain ⟨stop, hstopped, -⟩ := hdeep fun hfit => hnesting hfit.1
    exact absurd (hstopped.symm.trans hok) (by simp)
  · intro hnesting
    exact ⟨_, hfits ⟨hnesting, hdepth⟩⟩

/-! ## Recovery -/

/-- The tokens of a stream, which end with an end of the input, are made into the stream again. -/
lemma Stream.ofTokens_tokens (s : Stream) : Stream.ofTokens s.tokens = s := by
  simp [Stream.ofTokens, Stream.tokens, s.final_isEnd]

/-- Behind a semicolon is a statement boundary. -/
lemma Stream.fromBoundary_semicolon (l : List Token) : Stream.fromBoundary .semicolon l = l := by
  cases l <;> simp [Stream.fromBoundary]

namespace Parser

/-- A parser after rounds over a list of tokens: in each it has failed to read an expression, and
has then skipped to the next statement. -/
inductive Recovered (tokens : List Token) : Parser → Prop where
  | start : Recovered tokens (ofTokens tokens)
  | round {p : Parser} {d : Diagnostic} (h : Recovered tokens p)
      (hfail : (p.read .expression).1 = .error d) :
      Recovered tokens (p.read .expression).2.synchronize

lemma Recovered.nesting_le {tokens : List Token} {p : Parser} (h : Recovered tokens p) :
    p.nesting ≤ maxDepth := by
  induction h with
  | start => exact Nat.zero_le maxDepth
  | @round p _ _ _ ih => exact (moves_read ih .expression).nesting_le

/-- A new parser over the tokens that a parser has still to read. -/
def renewed (p : Parser) : Parser :=
  ofTokens p.stream.tokens

lemma renewed_eq (p : Parser) : p.renewed = ⟨p.stream, 0⟩ := by
  rw [renewed, ofTokens, Stream.ofTokens_tokens]

lemma fst_read_congr {p p' : Parser} {rule : Rule}
    (h : rule.read p.room p.stream = rule.read p'.room p'.stream) :
    (p.read rule).1 = (p'.read rule).1 := by
  simp only [read, h]
  cases rule.read p'.room p'.stream <;> rfl

lemma fst_read_eq_ok_iff {p : Parser} {rule : Rule} {e : Expr} :
    (p.read rule).1 = .ok e ↔ ∃ rest, rule.read p.room p.stream = .ok (e, rest) := by
  simp only [read]
  cases rule.read p.room p.stream with
  | ok result => simp [Prod.ext_iff]
  | error stop => simp

/-- The levels that are open are all that a parser can differ in from a new one. -/
lemma read_eq_renewed_or_tooDeep (p : Parser) :
    (p.read .expression).1 = (p.renewed.read .expression).1 ∨
      ∃ line, (p.read .expression).1 = .error ⟨.tooDeeplyNested maxDepth, line⟩ := by
  rw [renewed_eq]
  rcases shallower_expression (Nat.sub_le maxDepth p.nesting) p.stream with hsame | hdeep
  · exact .inl (fst_read_congr hsame)
  · obtain ⟨⟨⟨fault, line⟩, rest, k⟩, hread, rfl⟩ := hdeep
    refine .inr ⟨line, ?_⟩
    simp only [read, room, hread]

lemma read_eq_ok_iff_of_renewed {p : Parser} {e : Expr}
    (h : (p.renewed.read .expression).1 = .ok e) :
    (p.read .expression).1 = .ok e ↔ e.nesting ≤ p.room := by
  rw [renewed_eq, fst_read_eq_ok_iff] at h
  obtain ⟨rest, hrenewed⟩ := h
  rw [fst_read_eq_ok_iff]
  exact read_eq_ok_iff_of_read hrenewed

/-- **What failures leave of a parser.**  A rule that fails leaves open the levels around the
obstacle, and they count as open from then on.  After rounds of failing and skipping, an expression
is read as by a new parser over the remaining tokens if no level has been left open.  If some have
been, it may be refused for its depth instead, and of the expressions that a new parser reads, those
are refused that have more levels than there is room for beside the ones left open. -/
theorem read_of_recovered (p : Parser) :
    (∀ rule d, (p.read rule).1 = .error d → ∃ k,
      rule.Interrupted p.room p.stream ⟨d, (p.read rule).2.stream, k⟩ ∧
      (p.read rule).2.nesting = p.nesting + k) ∧
    ∀ tokens, Recovered tokens p →
      (p.nesting = 0 → (p.read .expression).1 = (p.renewed.read .expression).1) ∧
      ((p.read .expression).1 = (p.renewed.read .expression).1 ∨
        ∃ line, (p.read .expression).1 = .error ⟨.tooDeeplyNested maxDepth, line⟩) ∧
      ∀ e, (p.renewed.read .expression).1 = .ok e →
        ((p.read .expression).1 = .ok e ↔ p.nesting + e.nesting ≤ maxDepth) := by
  refine ⟨fun rule d herror => ?_, fun tokens hrec => ⟨fun hzero => ?_, ?_, fun e hok => ?_⟩⟩
  · obtain ⟨stop, hread, rfl, hafter⟩ := read_eq_error herror
    rw [hafter]
    exact ⟨stop.leftOpen, Rule.interrupted_of_read hread, rfl⟩
  · have hp : p.renewed = p := by rw [renewed_eq, ← hzero]
    rw [hp]
  · exact p.read_eq_renewed_or_tooDeep
  · have hle := hrec.nesting_le
    rw [read_eq_ok_iff_of_renewed hok, room]
    omega

/-- The minus sign fails within one level, which stays open, and the constant behind the semicolon
is read as by a new parser. -/
theorem read_recovered_minusWithout :
    let start := ofTokens minusWithout
    let p := (start.read .expression).2.synchronize
    Rule.expression.Interrupted start.room start.stream
      ⟨⟨.expectedExpression ";", 1⟩, (start.read .expression).2.stream, 1⟩ ∧
    Recovered minusWithout p ∧ p.nesting = 1 ∧
    (p.read .expression).1 = .ok (.literal (.bool true)) := by
  intro start p
  have hfail : (start.read .expression).1 = .error ⟨.expectedExpression ";", 1⟩ := rfl
  have hnesting : (start.read .expression).2.nesting = 1 := rfl
  have hrec : Recovered minusWithout p := .round .start hfail
  have hnew : (p.renewed.read .expression).1 = .ok (.literal (.bool true)) := by decide +kernel
  obtain ⟨k, hstopped, hopen⟩ := (read_of_recovered start).1 .expression _ hfail
  have hk : 1 = 0 + k := hnesting.symm.trans hopen
  obtain rfl : k = 1 := by omega
  obtain ⟨-, -, hread⟩ := (read_of_recovered p).2 minusWithout hrec
  exact ⟨hstopped, hrec, hnesting, (hread _ hnew).mpr (by decide)⟩

/-! ## Failing too often -/

/-- Statements that are a minus sign and nothing else, and one behind them that is an expression. -/
def brokenMinuses : Nat → List Token
  | 0 => [⟨.minus, "-", none, 1⟩, ⟨.keyword .trueWord, "true", none, 1⟩]
  | n + 1 => ⟨.minus, "-", none, 1⟩ :: ⟨.semicolon, ";", none, 1⟩ :: brokenMinuses n

lemma kind_endAt_one : (Token.endAt 1).kind = .endOfInput := rfl

/-- A parser at the start of the statements, with some levels left open. -/
def atMinuses (n nesting : Nat) : Parser :=
  ⟨⟨brokenMinuses n, Token.endAt 1, kind_endAt_one⟩, nesting⟩

/-- A statement that is only a minus sign leaves one level open, if one can be opened. -/
lemma read_atMinuses {n nesting : Nat} (h : nesting < maxDepth) :
    ((atMinuses (n + 1) nesting).read .expression).1 = .error ⟨.expectedExpression ";", 1⟩ ∧
      ((atMinuses (n + 1) nesting).read .expression).2.synchronize = atMinuses n (nesting + 1) := by
  obtain ⟨room, hroom⟩ : ∃ room, maxDepth - nesting = room + 1 :=
    Nat.exists_eq_succ_of_ne_zero (by omega)
  have hread : (atMinuses (n + 1) nesting).read .expression =
      (.error ⟨.expectedExpression ";", 1⟩,
        ⟨⟨⟨.semicolon, ";", none, 1⟩ :: brokenMinuses n, Token.endAt 1, rfl⟩, nesting + 1⟩) := by
    simp only [read, Parser.room, atMinuses, hroom]
    rfl
  rw [hread]
  refine ⟨rfl, ?_⟩
  have hskip := Stream.fromBoundary_semicolon (brokenMinuses n)
  simp [synchronize, Stream.synchronize, Stream.advance, Stream.withPending, Token.isEnd, atMinuses,
    hskip]

/-- All the statements in turn, each with one level more left open. -/
lemma Recovered.atMinuses {tokens : List Token} {n nesting : Nat}
    (h : Recovered tokens (atMinuses n nesting)) (hroom : nesting + n ≤ maxDepth) :
    Recovered tokens (Parser.atMinuses 0 (nesting + n)) := by
  induction n generalizing nesting with
  | zero => exact h
  | succ n ih =>
      obtain ⟨hfail, hnext⟩ := read_atMinuses (n := n) (by omega : nesting < maxDepth)
      have hround := h.round hfail
      rw [hnext] at hround
      have hsum : nesting + (n + 1) = nesting + 1 + n := by omega
      rw [hsum] at hroom ⊢
      exact ih hround hroom

/-- **A parser does not recover from failures.**  The levels that a failing rule has opened are not
closed, and after a hundred statements without an operand a parser refuses an expression that a new
one reads. -/
theorem not_restored_by_synchronize :
    (¬ ∀ (p : Parser) rule d, (p.read rule).1 = .error d → (p.read rule).2.nesting = p.nesting) ∧
    ¬ ∀ tokens p, Recovered tokens p →
      (p.read .expression).1 = (p.renewed.read .expression).1 := by
  refine ⟨fun hclosed => ?_, fun hsame => ?_⟩
  · have hread := hclosed (atMinuses 1 0) .expression ⟨.expectedExpression ";", 1⟩ rfl
    exact absurd hread (by decide)
  · have hstart : Recovered (atMinuses maxDepth 0).stream.tokens (atMinuses maxDepth 0).renewed :=
      .start
    rw [renewed_eq] at hstart
    have hread := hsame _ _ (hstart.atMinuses (Nat.le_refl _))
    have hnew : ((atMinuses 0 maxDepth).renewed.read .expression).1 =
        .ok (.unary ⟨.minus, "-", none, 1⟩ (.literal (.bool true))) := by decide +kernel
    have hold : ((atMinuses 0 maxDepth).read .expression).1 =
        .error ⟨.tooDeeplyNested maxDepth, 1⟩ := rfl
    rw [Nat.zero_add, hnew, hold] at hread
    cases hread

end Parser

end Reckon
