import Mathlib.Order.Bounds.Basic
import Reckon.Proofs.ParserRuns

/-!
# Statement boundaries

Skipping leads to the next statement boundary, and to no later one.

**Places.**  A boundary is a property of a place among all tokens (`BoundaryAt`): the token at the
place is an end of the input or starts a statement, or the one before it is a semicolon.  A place is
the same place when tokens are put in front, as long as it is not the first.

**Least.**  Skipping looks at two tokens at once, the one it has just passed and the one it has come
to.  The induction is therefore on the tokens ahead, with the one just passed in front of them, and
the place sought is counted from there.

**Progress.**  Away from the end each skip passes a token, so there are at most as many as tokens
remain.
-/

namespace Reckon

/-! ## Boundaries as places -/

/-- The kinds of token that start a statement. -/
def statementKinds : List Token.Kind :=
  [.classWord, .funWord, .varWord, .forWord, .ifWord, .whileWord, .printWord, .returnWord].map
    Token.Kind.keyword

lemma startsStatement_iff (kind : Token.Kind) :
    kind.startsStatement = true ↔ kind ∈ statementKinds := by
  cases kind with
  | keyword word => cases word <;> decide
  | _ => decide

/-- The token at place `j` is an end of the input. -/
def EndAt (all : List Token) (j : Nat) : Prop :=
  ∃ t ∈ all[j]?, t.kind = .endOfInput

instance (all : List Token) (j : Nat) : Decidable (EndAt all j) :=
  inferInstanceAs (Decidable (∃ t ∈ all[j]?, t.kind = .endOfInput))

/-- There is a token at place `j`, and it is an end of the input, or it starts a statement, or the
token before it is a semicolon. -/
def BoundaryAt (all : List Token) (j : Nat) : Prop :=
  ∃ t ∈ all[j]?, t.kind = .endOfInput ∨ t.kind ∈ statementKinds ∨
    ∃ before ∈ all[j - 1]?, before.kind = .semicolon

lemma boundaryAt_append (read : List Token) {rest : List Token} {i : Nat} (hi : 0 < i) :
    BoundaryAt (read ++ rest) (read.length + i) ↔ BoundaryAt rest i := by
  have hbefore : read.length + i - 1 = read.length + (i - 1) := by omega
  simp only [BoundaryAt, hbefore, List.getElem?_append_right (Nat.le_add_right _ _),
    Nat.add_sub_cancel_left]

/-- What skipping tests is whether it has come to a boundary. -/
lemma boundaryAt_one_iff {before t : Token} {l : List Token} :
    BoundaryAt (before :: t :: l) 1 ↔
      (t.isEnd || before.kind == .semicolon || t.kind.startsStatement) = true := by
  simp only [BoundaryAt, Token.isEnd, List.getElem?_cons_succ, List.getElem?_cons_zero,
    Option.mem_some_iff, exists_eq_left', Nat.sub_self, Bool.or_eq_true, beq_iff_eq,
    startsStatement_iff]
  tauto

namespace Stream

/-- Skipping stops at the first boundary behind the token just passed. -/
lemma isLeast_fromBoundary {final : Token} (hfinal : final.kind = .endOfInput) (passed : Token)
    (l : List Token) :
    ∃ skipped, l = skipped ++ fromBoundary passed.kind l ∧
      IsLeast {j | 0 < j ∧ BoundaryAt (passed :: l ++ [final]) j} (skipped.length + 1) := by
  induction l generalizing passed with
  | nil =>
      refine ⟨[], rfl, ⟨Nat.one_pos, ?_⟩, fun j hj => hj.1⟩
      exact boundaryAt_one_iff.mpr (by simp [Token.isEnd, hfinal])
  | cons t l ih =>
      rw [fromBoundary]
      split
      · rename_i hstop
        exact ⟨[], rfl, ⟨Nat.one_pos, boundaryAt_one_iff.mpr hstop⟩, fun j hj => hj.1⟩
      · rename_i hgo
        obtain ⟨skipped, hskipped, ⟨-, hboundary⟩, hleast⟩ := ih t
        refine ⟨t :: skipped, congrArg (t :: ·) hskipped, ⟨Nat.succ_pos _, ?_⟩, ?_⟩
        · rw [List.length_cons, Nat.add_comm]
          exact (boundaryAt_append [passed] (Nat.succ_pos _)).mpr hboundary
        · rintro j ⟨hj, hat⟩
          -- the place of `t` is no boundary, and from there on places are those of the rest
          obtain ⟨i, rfl⟩ : ∃ i, j = 1 + i := ⟨j - 1, by omega⟩
          rcases Nat.eq_zero_or_pos i with rfl | hi
          · exact absurd (boundaryAt_one_iff.mp hat) hgo
          · have := hleast ⟨hi, (boundaryAt_append [passed] hi).mp hat⟩
            rw [List.length_cons]
            omega

lemma synchronize_of_atEnd {s : Stream} (h : s.atEnd = true) : s.synchronize = s := by
  obtain ⟨pending, final, hfinal⟩ := s
  cases pending with
  | nil => rfl
  | cons t l =>
      have ht : t.isEnd = true := h
      simp [synchronize, advance, withPending, fromBoundary, ht]

/-- Away from the end the current token is skipped, and then all up to a boundary. -/
lemma isLeast_synchronize {s : Stream} (h : s.atEnd = false) :
    ∃ skipped, s.tokens = skipped ++ s.synchronize.tokens ∧
      IsLeast {j | 0 < j ∧ BoundaryAt s.tokens j} skipped.length := by
  obtain ⟨pending, final, hfinal⟩ := s
  cases pending with
  | nil => simp [atEnd, current, Token.isEnd, hfinal] at h
  | cons t l =>
      have ht : t.isEnd = false := h
      obtain ⟨skipped, hskipped, hleast⟩ := isLeast_fromBoundary hfinal t l
      refine ⟨t :: skipped, ?_, hleast⟩
      simp only [synchronize, advance, ht, Bool.false_eq_true, if_false, withPending, tokens,
        List.cons_append, ← List.append_assoc, ← hskipped]

end Stream

/-! ## Skipping -/

namespace Parser

lemma endAt_cursor_iff (read : List Token) (p : Parser) :
    EndAt (read ++ p.stream.tokens) (p.cursor (read ++ p.stream.tokens)) ↔
      p.stream.atEnd = true := by
  have hcurrent : (read ++ p.stream.tokens)[read.length]? = some p.stream.current := by
    rw [List.getElem?_append_right (Nat.le_refl _), Nat.sub_self]
    cases hp : p.stream.pending <;> simp [Stream.tokens, Stream.current, hp]
  rw [cursor_eq rfl, EndAt, hcurrent]
  simp [Stream.atEnd, Token.isEnd]

/-- One skip, with whatever has been read before. -/
lemma exists_synchronize (read : List Token) {p : Parser} (h : p.stream.atEnd = false) :
    ∃ skipped, 0 < skipped.length ∧
      read ++ p.stream.tokens = (read ++ skipped) ++ p.synchronize.stream.tokens ∧
      IsLeast {j | read.length < j ∧ BoundaryAt (read ++ p.stream.tokens) j}
        (read ++ skipped).length := by
  obtain ⟨skipped, hskipped, ⟨hpos, hboundary⟩, hleast⟩ := p.stream.isLeast_synchronize h
  refine ⟨skipped, hpos, ?_, ?_⟩
  · rw [List.append_assoc]
    exact congrArg (read ++ ·) hskipped
  · rw [List.length_append]
    refine ⟨⟨by omega, (boundaryAt_append read hpos).mpr hboundary⟩, ?_⟩
    rintro j ⟨hj, hat⟩
    obtain ⟨i, rfl⟩ : ∃ i, j = read.length + i := ⟨j - read.length, by omega⟩
    have := hleast ⟨by omega, (boundaryAt_append read (by omega)).mp hat⟩
    omega

/-- Skipping again and again comes to an end of the input. -/
lemma exists_endAt_synchronize (read : List Token) (p : Parser) :
    ∃ n ≤ p.stream.remaining, EndAt (read ++ p.stream.tokens)
      ((synchronize^[n] p).cursor (read ++ p.stream.tokens)) := by
  -- strong induction on the tokens that remain, of which every skip passes one
  induction hleft : p.stream.remaining using Nat.strong_induction_on generalizing p read with
  | _ left ih =>
      cases hend : p.stream.atEnd with
      | true => exact ⟨0, Nat.zero_le _, (endAt_cursor_iff read p).mpr hend⟩
      | false =>
          obtain ⟨skipped, hpos, htokens, -⟩ := exists_synchronize read hend
          have hlt : p.synchronize.stream.remaining < left := by
            have hlength := congrArg List.length htokens
            simp only [Stream.tokens, List.length_append, List.length_singleton] at hlength
            simp only [Stream.remaining] at hleft ⊢
            omega
          obtain ⟨n, hn, hat⟩ := ih _ hlt (read ++ skipped) p.synchronize rfl
          rw [← htokens] at hat
          exact ⟨n + 1, by omega, hat⟩

/-- **Skipping stops at the first statement boundary.**  Whatever has been read before, a parser at
an end of the input stays there, and any other comes to the first boundary behind its current token.
Neither the tokens nor the open levels change, and after finitely many skips the parser stands at an
end of the input. -/
theorem isLeast_cursor_synchronize (read : List Token) (p : Parser) :
    let all := read ++ p.stream.tokens
    let next := p.synchronize
    (if EndAt all (p.cursor all) then next.cursor all = p.cursor all
      else IsLeast {j | p.cursor all < j ∧ BoundaryAt all j} (next.cursor all)) ∧
    all = all.take (next.cursor all) ++ next.stream.tokens ∧ next.nesting = p.nesting ∧
    ∃ n ≤ p.stream.remaining, EndAt all ((synchronize^[n] p).cursor all) := by
  intro all next
  have hp : p.cursor all = read.length := cursor_eq rfl
  have hends := exists_endAt_synchronize read p
  cases hend : p.stream.atEnd with
  | true =>
      have hnext : next = p :=
        congrArg (Parser.mk · p.nesting) (Stream.synchronize_of_atEnd hend)
      rw [if_pos ((endAt_cursor_iff read p).mpr hend), hnext, hp, List.take_left]
      exact ⟨rfl, rfl, rfl, hends⟩
  | false =>
      obtain ⟨skipped, -, htokens, hleast⟩ := exists_synchronize read hend
      have hnext : next.cursor all = (read ++ skipped).length := cursor_eq htokens
      have hnot : ¬ EndAt all (p.cursor all) := by
        rw [endAt_cursor_iff read p, hend]
        exact Bool.false_ne_true
      rw [if_neg hnot, hp, hnext]
      refine ⟨hleast, ?_, rfl, hends⟩
      rw [show all = _ from htokens, List.take_left]

-- from the minus sign behind the semicolon, not to it
example : (ofTokens minusWithout).synchronize.cursor (Stream.ofTokens minusWithout).tokens = 2 := by
  decide

end Parser

end Reckon
