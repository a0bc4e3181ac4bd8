import Reckon.Proofs.Failures

/-!
# How much room an expression takes

Reading an expression opens levels, and those that are open already are missing.  So the same tokens
may be read where few levels are open and refused where many are.

**One reading decides all others.**  What a rule reads with some room it reads with any other room
that the levels of the expression fit into, up to the same token, and with less it is refused for
the depth (`within_of_read`).  For most rules this is soundness followed by completeness: what has
been read is derivable, and what is derivable is read if it fits.  The rule for parentheses takes
whatever token it stands at for the opening one, so there is no derivation to go through, and only
what is inside of the parentheses is derivable (`within_grouping`).

**Levels that are open.**  A parser has room for the levels that are not open.  So it reads what a
parser with fewer open levels reads exactly if those that are open and those of the expression
together keep the limit (`read_iff_nesting_le`).
-/

namespace Reckon

/-! ## Readers -/

/-- Parentheses that are read are a node over what is inside, and not too deep. -/
lemma Rules.closing_eq_ok {opening : Token} {inner e : Expr} {s rest : Stream}
    (h : Rules.closing opening inner s = .ok (e, rest)) :
    e = .grouping inner ∧ e.depth ≤ maxDepth := by
  simp only [Rules.closing] at h
  split at h
  · cases h
  · obtain ⟨hresult, hdepth⟩ := Rules.node_eq_ok h
    obtain ⟨rfl, rfl⟩ := Prod.mk.inj hresult
    exact ⟨rfl, hdepth⟩

/-- Parentheses are read with other room if what is inside of them is. -/
lemma within_grouping {room : Nat} {s rest : Stream} {e : Expr}
    (h : Rules.grouping (Rules.deeper room) s = .ok (e, rest)) (other : Nat) :
    Within other e (.ok (e, rest)) (Rules.grouping (Rules.deeper other) s) := by
  rw [Rules.grouping_eq] at h ⊢
  obtain ⟨inner, behind, hnested, hclosing⟩ := andThen_eq_ok h
  obtain ⟨unary, hunary, hread⟩ := Rules.nested_eq_ok hnested
  obtain ⟨p, q, hq, rfl, hder, hstop, -⟩ := (recognizes_deeper room unary hunary).equality hread
  obtain ⟨rfl, hdepth⟩ := Rules.closing_eq_ok hclosing
  cases other with
  | zero =>
      refine Within.zero (by simp [Expr.nesting]) ?_
      exact (tooDeep_nested_zero _ _).andThen _
  | succ other =>
      have hinner : Within other inner _
          (Rules.nested (Rules.deeper (other + 1)) Rules.equality _) :=
        Within.nested (hder.reads.within hq hstop other)
      refine Within.succ rfl rfl hinner ?_ ?_ ?_
      · intro hok _
        rw [hok]
        exact hclosing
      · intro _ hdeep
        exact absurd hdepth hdeep
      · intro hdeep
        exact hdeep.andThen _

/-- What a category's rule reads is derivable, so it is read with any room that it fits into. -/
lemma Category.within_of_read {n : Category} {room : Nat} {s rest : Stream} {e : Expr}
    (h : n.rule.read room s = .ok (e, rest)) (other : Nat) :
    Within other e (.ok (e, rest)) (n.rule.read other s) := by
  obtain ⟨p, q, hq, rfl, hder, hstop, -⟩ := recognizes_read n room h
  exact hder.reads.within hq hstop other

/-- **One reading decides all others.** -/
theorem within_of_read {rule : Rule} {room : Nat} {s rest : Stream} {e : Expr}
    (h : rule.read room s = .ok (e, rest)) (other : Nat) :
    Within other e (.ok (e, rest)) (rule.read other s) := by
  cases rule with
  | expression => exact Category.within_of_read (n := .expression) h other
  | equality => exact Category.within_of_read (n := .expression) h other
  | comparison => exact Category.within_of_read (n := .level .comparison) h other
  | term => exact Category.within_of_read (n := .level .term) h other
  | factor => exact Category.within_of_read (n := .level .factor) h other
  | unary => exact Category.within_of_read (n := .unary) h other
  | primary => exact Category.within_of_read (n := .primary) h other
  | grouping => exact within_grouping h other

/-- What is read fits into the room it is read with. -/
lemma fits_of_read {rule : Rule} {room : Nat} {s rest : Stream} {e : Expr}
    (h : rule.read room s = .ok (e, rest)) : e.Fits room := by
  by_contra hfit
  obtain ⟨stop, hstop, -⟩ := (within_of_read h room).2 hfit
  rw [h] at hstop
  cases hstop

/-! ## Parsers -/

namespace Parser

lemma read_eq_of_ok {p : Parser} {rule : Rule} {e : Expr} {rest : Stream}
    (h : rule.read p.room p.stream = .ok (e, rest)) :
    p.read rule = (.ok e, { p with stream := rest }) := by
  simp only [read, h]

/-- A rule that succeeds closes all that it has opened. -/
lemma exists_rest_of_read {p next : Parser} {rule : Rule} {e : Expr}
    (h : p.read rule = (.ok e, next)) :
    ∃ rest, rule.read p.room p.stream = .ok (e, rest) ∧ next = { p with stream := rest } := by
  simp only [read] at h
  cases hread : rule.read p.room p.stream with
  | ok result =>
      simp only [hread, Prod.mk.injEq, Except.ok.injEq] at h
      exact ⟨result.2, by rw [← h.1], h.2.symm⟩
  | error stop => simp [hread] at h

lemma read_eq_of_tooDeep {p : Parser} {rule : Rule} (h : TooDeep (rule.read p.room p.stream)) :
    ∃ line next, p.read rule = (.error ⟨.tooDeeplyNested maxDepth, line⟩, next) := by
  obtain ⟨⟨⟨fault, line⟩, rest, opened⟩, hread, rfl⟩ := h
  refine ⟨line, ⟨rest, p.nesting + opened⟩, ?_⟩
  simp only [read, hread]

/-- **The room that an expression takes is exact.**  A rule that reads an expression where more
levels are open reads it, up to the same token, where fewer are.  A rule that reads an expression
where fewer levels are open reads it, up to the same token, where more are, exactly if these and the
levels of the expression together keep the limit, and is refused for the depth otherwise. -/
theorem read_iff_nesting_le (rule : Rule) (s : Stream) {fewer more : Nat} (hle : fewer ≤ more)
    (hmax : more ≤ maxDepth) :
    (∀ e next, (Parser.mk s more).read rule = (.ok e, next) →
      (Parser.mk s fewer).read rule = (.ok e, { next with nesting := fewer })) ∧
    ∀ e next, (Parser.mk s fewer).read rule = (.ok e, next) →
      ((Parser.mk s more).read rule = (.ok e, { next with nesting := more }) ↔
        more + e.nesting ≤ maxDepth) ∧
      (¬ more + e.nesting ≤ maxDepth → ∃ line stopped,
        (Parser.mk s more).read rule = (.error ⟨.tooDeeplyNested maxDepth, line⟩, stopped)) := by
  have hroom : ∀ e : Expr, e.Fits (Parser.mk s more).room ↔
      more + e.nesting ≤ maxDepth ∧ e.depth ≤ maxDepth := by
    intro e
    simp only [Expr.Fits, room]
    omega
  refine ⟨fun e next h => ?_, fun e next h => ?_⟩
  · obtain ⟨rest, hread, rfl⟩ := exists_rest_of_read h
    obtain ⟨hnesting, hdepth⟩ := (hroom e).mp (fits_of_read hread)
    have hfits : e.Fits (Parser.mk s fewer).room := by
      simp only [Expr.Fits, room]
      omega
    exact read_eq_of_ok ((within_of_read hread _).1 hfits)
  · obtain ⟨rest, hread, rfl⟩ := exists_rest_of_read h
    obtain ⟨hfits, hdeep⟩ := within_of_read hread (Parser.mk s more).room
    have hdepth : e.depth ≤ maxDepth := (fits_of_read hread).2
    refine ⟨⟨fun hok => ?_, fun hnesting => ?_⟩, fun hnesting => ?_⟩
    · obtain ⟨rest', hread', -⟩ := exists_rest_of_read hok
      exact ((hroom e).mp (fits_of_read hread')).1
    · exact read_eq_of_ok (hfits ((hroom e).mpr ⟨hnesting, hdepth⟩))
    · exact read_eq_of_tooDeep (hdeep fun hfit => hnesting ((hroom e).mp hfit).1)

/-- A minus sign before parentheses, which are around a constant. -/
def minusGroup : Stream :=
  .ofTokens [⟨.minus, "-", none, 1⟩, ⟨.leftParen, "(", none, 1⟩,
    ⟨.keyword .nilWord, "nil", none, 1⟩, ⟨.rightParen, ")", none, 1⟩]

/-- Its two levels are the last that there is room for where 98 are open, and one too many where 99
are. -/
theorem read_minusGroup :
    let e := Expr.unary ⟨.minus, "-", none, 1⟩ (.grouping (.literal .nil))
    let behind := minusGroup.withPending []
    (Parser.mk minusGroup 97).read .factor = (.ok e, ⟨behind, 97⟩) ∧
    (Parser.mk minusGroup 98).read .factor = (.ok e, ⟨behind, 98⟩) ∧
    ∃ line stopped, (Parser.mk minusGroup 99).read .factor =
      (.error ⟨.tooDeeplyNested maxDepth, line⟩, stopped) := by
  intro e behind
  have hread : (Parser.mk minusGroup 97).read .factor = (.ok e, ⟨behind, 97⟩) := by
    with_unfolding_all rfl
  have hlast := read_iff_nesting_le .factor minusGroup (by decide : 97 ≤ 98) (by decide)
  have hbeyond := read_iff_nesting_le .factor minusGroup (by decide : 97 ≤ 99) (by decide)
  refine ⟨hread, ?_, ?_⟩
  · exact (hlast.2 e _ hread).1.mpr (by decide)
  · exact (hbeyond.2 e _ hread).2 (by decide)

end Parser

end Reckon
