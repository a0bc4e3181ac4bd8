import Mathlib.Tactic.Common
import Reckon.Operator
import Reckon.Parser.Rules

/-!
# The grammar of expressions

What a list of tokens means as an expression, without any limit on depth and without a parser.

**Derivation.**  `Derives n p e` says that the tokens `p` are an expression of category `n` with
the tree `e`.  The four levels of binary operators are left recursive, which is what makes them
associate to the left, and prefix operators are right recursive.

**Extension.**  `Extends level l p e` is the other reading of a left recursive level: behind the
left operand `l` stand operators with their right operands, and all together are `e`.  A
derivation splits into a first operand and an extension (`Derives.split`), and the two can be put
together again (`Derives.extend`).

**Unambiguity.**  Where two derivations of one category start at the same token, and neither is
followed by an operator that could have been taken as well, they are the same derivation:
`Derives.unique`.  The minus sign is a prefix operator and a binary one, but never both in one
place, since a binary operator can only follow a complete operand.
-/

namespace Reckon

open Rules (Level)

/-! ## Categories -/

/-- What the tokens of an expression can stand for. -/
inductive Category where
  | level (level : Level)
  | unary
  | primary
  deriving DecidableEq, Repr

namespace Category

/-- A whole expression is one of the loosest level. -/
abbrev expression : Category := .level .equality

/-- The binary operators that can stand in an expression of a category outside of parentheses: if
one of them follows, the expression may go on. -/
def operators : Category → List Token.Kind
  | .level .equality => [.equalEqual, .bangEqual, .greater, .greaterEqual, .less, .lessEqual,
      .minus, .plus, .slash, .star]
  | .level .comparison => [.greater, .greaterEqual, .less, .lessEqual, .minus, .plus, .slash, .star]
  | .level .term => [.minus, .plus, .slash, .star]
  | .level .factor => [.slash, .star]
  | .unary | .primary => []

end Category

/-- The category of the operands of a level: the next tighter one. -/
def Rules.Level.operand : Level → Category
  | .equality => .level .comparison
  | .comparison => .level .term
  | .term => .level .factor
  | .factor => .unary

lemma Category.operators_level (level : Level) :
    (Category.level level).operators = level.operators ++ level.operand.operators := by
  cases level <;> rfl

/-- The operators of a level are none of its operands'. -/
lemma Rules.Level.not_mem_operand_operators {level : Level} {kind : Token.Kind}
    (h : kind ∈ level.operators) : kind ∉ level.operand.operators := by
  cases level <;>
    · simp only [Level.operators, List.mem_cons, List.not_mem_nil, or_false] at h
      rcases h with rfl | rfl | rfl | rfl <;> decide

/-- The binary operators are those that can stand in an expression. -/
lemma Category.mem_operators_expression (kind : Token.Kind) :
    kind ∈ Category.expression.operators ↔ kind.binaryOp? ≠ none := by
  cases kind <;> simp [Category.operators, Token.Kind.binaryOp?]

/-- Whether an expression of a category can only end before these tokens. -/
def Stops (n : Category) (rest : List Token) : Prop :=
  ∀ t ∈ rest.head?, t.kind ∉ n.operators

lemma Stops.level_iff {level : Level} {rest : List Token} :
    Stops (.level level) rest ↔
      (∀ t ∈ rest.head?, t.kind ∉ level.operators) ∧ Stops level.operand rest := by
  simp only [Stops, Category.operators_level, List.mem_append, not_or, imp_and, forall_and]

/-! ## Derivations -/

/-- The constant that a kind of token stands for. -/
def Token.Kind.constant? : Token.Kind → Option Value
  | .keyword .trueWord => some (.bool true)
  | .keyword .falseWord => some (.bool false)
  | .keyword .nilWord => some .nil
  | _ => none

/-- The tokens are an expression of the category, with this tree.  A constant is what its kind
says, whatever literal its token carries; a number or a string is the literal that its token
carries, and is none without one. -/
inductive Derives : Category → List Token → Expr → Prop where
  | operand {level : Level} {p : List Token} {e : Expr} (h : Derives level.operand p e) :
      Derives (.level level) p e
  | binary {level : Level} {p q : List Token} {operator : Token} {l r : Expr}
      (hl : Derives (.level level) p l) (ho : operator.kind ∈ level.operators)
      (hr : Derives level.operand q r) :
      Derives (.level level) (p ++ operator :: q) (.binary l operator r)
  | prefixed {operator : Token} {p : List Token} {e : Expr}
      (ho : operator.kind ∈ [Token.Kind.minus, .bang]) (h : Derives .unary p e) :
      Derives .unary (operator :: p) (.unary operator e)
  | primary {p : List Token} {e : Expr} (h : Derives .primary p e) : Derives .unary p e
  | constant {t : Token} {v : Value} (hv : t.kind.constant? = some v) :
      Derives .primary [t] (.literal v)
  | carried {t : Token} {v : Value} (hk : t.kind ∈ [Token.Kind.number, .string])
      (hv : t.literal = some v) : Derives .primary [t] (.literal v)
  | grouping {opening closing : Token} {p : List Token} {e : Expr}
      (ho : opening.kind = .leftParen) (h : Derives .expression p e)
      (hc : closing.kind = .rightParen) :
      Derives .primary (opening :: p ++ [closing]) (.grouping e)

/-- Behind a left operand of a level stand operators of the level with their right operands, and
all together are this tree. -/
inductive Extends (level : Level) : Expr → List Token → Expr → Prop where
  | done {l : Expr} : Extends level l [] l
  | step {l r e : Expr} {operator : Token} {p q : List Token}
      (ho : operator.kind ∈ level.operators) (hr : Derives level.operand p r)
      (he : Extends level (.binary l operator r) q e) :
      Extends level l (operator :: p ++ q) e

/-- An expression of a level may be extended at its end. -/
lemma Derives.extend {level : Level} {p q : List Token} {l e : Expr}
    (hl : Derives (.level level) p l) (he : Extends level l q e) :
    Derives (.level level) (p ++ q) e := by
  induction he generalizing p with
  | done => simpa using hl
  | step ho hr _ ih =>
      have h := ih (hl.binary ho hr)
      simpa using h

/-- An extension may be extended by one more operator. -/
lemma Extends.snoc {level : Level} {p q : List Token} {l e r : Expr} {operator : Token}
    (he : Extends level l p e) (ho : operator.kind ∈ level.operators)
    (hr : Derives level.operand q r) :
    Extends level l (p ++ operator :: q) (.binary e operator r) := by
  induction he with
  | done => simpa using Extends.step ho hr .done
  | step ho' hr' _ ih => simpa using Extends.step ho' hr' ih

/-- An expression of a level is a first operand and what extends it. -/
lemma Derives.split {level : Level} {p : List Token} {e : Expr}
    (h : Derives (.level level) p e) :
    ∃ first rest l, p = first ++ rest ∧ Derives level.operand first l ∧
      Extends level l rest e := by
  generalize hn : Category.level level = n at h
  induction h with
  | @operand level' p e h _ =>
      obtain rfl : level = level' := by simpa using hn
      exact ⟨p, [], e, by simp, h, .done⟩
  | @binary level' p q operator l r hl ho hr ihl _ =>
      obtain rfl : level = level' := by simpa using hn
      obtain ⟨first, rest, l', rfl, hfirst, hrest⟩ := ihl rfl
      exact ⟨first, rest ++ operator :: q, l', by simp, hfirst, hrest.snoc ho hr⟩
  | _ => simp at hn

/-! ## The tokens of a derivation -/

lemma Token.isEnd_eq_false_of_mem {t : Token} {kinds : List Token.Kind} (ht : t.kind ∈ kinds)
    (hkinds : Token.Kind.endOfInput ∉ kinds) : t.isEnd = false := by
  simp only [Token.isEnd, beq_eq_false_iff_ne]
  rintro hend
  exact hkinds (hend ▸ ht)

lemma Rules.Level.endOfInput_not_mem (level : Level) :
    Token.Kind.endOfInput ∉ level.operators := by
  cases level <;> decide

/-- No derivation holds an end of the input. -/
lemma Derives.isEnd_eq_false {n : Category} {p : List Token} {e : Expr} (h : Derives n p e) :
    ∀ t ∈ p, t.isEnd = false := by
  induction h with
  | operand _ ih => exact ih
  | @binary level _ _ operator _ _ _ ho _ ihl ihr =>
      have hop := Token.isEnd_eq_false_of_mem ho level.endOfInput_not_mem
      simp only [List.mem_append, List.mem_cons]
      rintro t (ht | rfl | ht)
      · exact ihl t ht
      · exact hop
      · exact ihr t ht
  | prefixed ho _ ih =>
      exact List.forall_mem_cons.mpr ⟨Token.isEnd_eq_false_of_mem ho (by decide), ih⟩
  | primary _ ih => exact ih
  | @constant t v hv =>
      simp only [List.mem_singleton, forall_eq, Token.isEnd, beq_eq_false_iff_ne]
      rintro hend
      simp [hend, Token.Kind.constant?] at hv
  | carried hk _ => exact List.forall_mem_singleton.mpr (Token.isEnd_eq_false_of_mem hk (by decide))
  | @grouping opening closing p e ho _ hc ih =>
      simp only [List.cons_append, List.mem_cons, List.mem_append, List.not_mem_nil, or_false]
      rintro t (rfl | ht | rfl)
      · simp [Token.isEnd, ho]
      · exact ih t ht
      · simp [Token.isEnd, hc]

/-- A literal or a pair of parentheses does not start with a prefix operator. -/
lemma Derives.head_primary {p : List Token} {e : Expr} (h : Derives .primary p e) :
    ∃ t rest, p = t :: rest ∧ t.kind ∉ [Token.Kind.minus, .bang] := by
  cases h with
  | @constant t v hv =>
      refine ⟨t, [], rfl, ?_⟩
      intro hk
      simp only [List.mem_cons, List.not_mem_nil, or_false] at hk
      rcases hk with hk | hk <;> simp [hk, Token.Kind.constant?] at hv
  | @carried t v hk hv =>
      refine ⟨t, [], rfl, ?_⟩
      simp only [List.mem_cons, List.not_mem_nil, or_false] at hk
      rcases hk with hk | hk <;> simp [hk]
  | @grouping opening closing p e ho h hc => exact ⟨opening, p ++ [closing], rfl, by simp [ho]⟩

/-- What extends an operand of a level starts with an operator of the level, so the operand itself
stops before it. -/
lemma Extends.stops {level : Level} {l e : Expr} {p q : List Token} (he : Extends level l p e)
    (hq : Stops level.operand q) : Stops level.operand (p ++ q) := by
  cases he with
  | done => exact hq
  | step ho _ _ =>
      intro t ht
      obtain rfl : _ = t := by simpa using ht
      exact Level.not_mem_operand_operators ho

/-! ## Unambiguity -/

/-- A derivation is settled if every other that starts where it starts agrees with it.  At a level
of binary operators the other one may go on behind it, but only by extending the same tree. -/
def Settled : Category → List Token → Expr → Prop
  | .level level, p, e => ∀ ⦃q p' q' : List Token⦄ ⦃e' : Expr⦄, p ++ q = p' ++ q' →
      Stops level.operand q → Stops (.level level) q' → Derives (.level level) p' e' →
      ∃ m, p' = p ++ m ∧ Extends level e m e'
  | n, p, e => ∀ ⦃q p' q' : List Token⦄ ⦃e' : Expr⦄, p ++ q = p' ++ q' → Derives n p' e' →
      p' = p ∧ e' = e

/-- If neither of two derivations could go on, a settled one is equal to the other. -/
lemma Settled.unique {n : Category} {p q p' q' : List Token} {e e' : Expr} (h : Settled n p e)
    (heq : p ++ q = p' ++ q') (hq : Stops n q) (hq' : Stops n q') (h' : Derives n p' e') :
    p' = p ∧ e' = e := by
  cases n with
  | level level =>
      obtain ⟨m, rfl, hm⟩ := h heq (Stops.level_iff.mp hq).2 hq' h'
      cases hm with
      | done => simp
      | @step _ r _ operator p₁ q₁ ho _ _ =>
          -- the operator that extends the tree would follow the settled derivation too
          obtain rfl : q = operator :: p₁ ++ q₁ ++ q' := by simpa using heq
          exact absurd ho ((Stops.level_iff.mp hq).1 operator (by simp))
  | unary => exact h heq h'
  | primary => exact h heq h'

lemma Settled.operand {level : Level} {p : List Token} {e : Expr} (h : Settled level.operand p e) :
    Settled (.level level) p e := by
  intro q p' q' e' heq hq hq' h'
  obtain ⟨first, rest, l, rfl, hfirst, hrest⟩ := h'.split
  have hstop := hrest.stops (Stops.level_iff.mp hq').2
  obtain ⟨rfl, rfl⟩ := h.unique (by simpa using heq) hq hstop hfirst
  exact ⟨rest, rfl, hrest⟩

/-- One more operator: the other derivation extends the left operand, and what it extends it by
starts with the operator and the same right operand. -/
lemma Settled.binary {level : Level} {p q : List Token} {operator : Token} {l r : Expr}
    (hl : Settled (.level level) p l) (ho : operator.kind ∈ level.operators)
    (hr : Settled level.operand q r) :
    Settled (.level level) (p ++ operator :: q) (.binary l operator r) := by
  intro q₂ p' q' e' heq hq₂ hq' h'
  have hstop : Stops level.operand (operator :: q ++ q₂) := by
    intro t ht
    obtain rfl : operator = t := by simpa using ht
    exact Level.not_mem_operand_operators ho
  obtain ⟨m, rfl, hm⟩ := hl (by simpa using heq) hstop hq' h'
  cases hm with
  | done =>
      obtain rfl : q' = operator :: q ++ q₂ := by simpa using heq.symm
      exact absurd ho ((Stops.level_iff.mp hq').1 operator (by simp))
  | @step _ r' _ operator' p₁ m₁ ho' hr' he' =>
      obtain ⟨rfl, heq'⟩ : operator = operator' ∧ q ++ q₂ = p₁ ++ (m₁ ++ q') := by
        simpa using heq
      have hstop' := he'.stops (Stops.level_iff.mp hq').2
      obtain ⟨rfl, rfl⟩ := hr.unique heq' hq₂ hstop' hr'
      exact ⟨m₁, by simp, he'⟩

lemma Settled.prefixed {operator : Token} {p : List Token} {e : Expr}
    (ho : operator.kind ∈ [Token.Kind.minus, .bang]) (h : Settled .unary p e) :
    Settled .unary (operator :: p) (.unary operator e) := by
  intro q p' q' e' heq h'
  cases h' with
  | @prefixed operator' p₁ e₁ ho' h₁ =>
      obtain ⟨rfl, heq'⟩ : operator = operator' ∧ p ++ q = p₁ ++ q' := by simpa using heq
      obtain ⟨rfl, rfl⟩ := h heq' h₁
      exact ⟨rfl, rfl⟩
  | primary h₁ =>
      obtain ⟨t, rest, rfl, ht⟩ := h₁.head_primary
      obtain ⟨rfl, -⟩ : operator = t ∧ _ := by simpa using heq
      exact absurd ho ht

lemma Settled.primary {p : List Token} {e : Expr} (hhead : ∃ t rest, p = t :: rest ∧
    t.kind ∉ [Token.Kind.minus, .bang]) (h : Settled .primary p e) : Settled .unary p e := by
  intro q p' q' e' heq h'
  cases h' with
  | @prefixed operator p₁ e₁ ho h₁ =>
      obtain ⟨t, rest, rfl, ht⟩ := hhead
      obtain ⟨rfl, -⟩ : t = operator ∧ _ := by simpa using heq
      exact absurd ho ht
  | primary h₁ => exact h heq h₁

/-- A token that starts an operand starts only one: the three ways to start one differ by kind. -/
lemma Settled.constant {t : Token} {v : Value} (hv : t.kind.constant? = some v) :
    Settled .primary [t] (.literal v) := by
  intro q p' q' e' heq h'
  cases h' with
  | @constant t' v' hv' =>
      obtain ⟨rfl, -⟩ : t = t' ∧ _ := by simpa using heq
      simpa [hv] using hv'.symm
  | @carried t' v' hk hv' =>
      obtain ⟨rfl, -⟩ : t = t' ∧ _ := by simpa using heq
      simp only [List.mem_cons, List.not_mem_nil, or_false] at hk
      rcases hk with hk | hk <;> simp [hk, Token.Kind.constant?] at hv
  | grouping ho _ _ =>
      obtain ⟨rfl, -⟩ : t = _ ∧ _ := by simpa using heq
      simp [ho, Token.Kind.constant?] at hv

lemma Settled.carried {t : Token} {v : Value} (hk : t.kind ∈ [Token.Kind.number, .string])
    (hv : t.literal = some v) : Settled .primary [t] (.literal v) := by
  intro q p' q' e' heq h'
  simp only [List.mem_cons, List.not_mem_nil, or_false] at hk
  cases h' with
  | @constant t' v' hv' =>
      obtain ⟨rfl, -⟩ : t = t' ∧ _ := by simpa using heq
      rcases hk with hk | hk <;> simp [hk, Token.Kind.constant?] at hv'
  | @carried t' v' _ hv' =>
      obtain ⟨rfl, -⟩ : t = t' ∧ _ := by simpa using heq
      simpa [hv] using hv'.symm
  | grouping ho _ _ =>
      obtain ⟨rfl, -⟩ : t = _ ∧ _ := by simpa using heq
      rcases hk with hk | hk <;> simp [ho] at hk

lemma Settled.grouping {opening closing : Token} {p : List Token} {e : Expr}
    (ho : opening.kind = .leftParen) (h : Settled .expression p e)
    (hc : closing.kind = .rightParen) :
    Settled .primary (opening :: p ++ [closing]) (.grouping e) := by
  intro q p' q' e' heq h'
  cases h' with
  | @constant t' v' hv' =>
      obtain ⟨rfl, -⟩ : opening = t' ∧ _ := by simpa using heq
      simp [ho, Token.Kind.constant?] at hv'
  | @carried t' v' hk hv' =>
      obtain ⟨rfl, -⟩ : opening = t' ∧ _ := by simpa using heq
      simp [ho] at hk
  | @grouping opening' closing' p₁ e₁ ho' h₁ hc' =>
      obtain ⟨rfl, heq'⟩ : opening = opening' ∧ p ++ closing :: q = p₁ ++ closing' :: q' := by
        simpa using heq
      have hstop : Stops .expression (closing :: q) := by simp [Stops, hc, Category.operators]
      have hstop' : Stops .expression (closing' :: q') := by simp [Stops, hc', Category.operators]
      obtain ⟨rfl, rfl⟩ := h.unique heq' hstop hstop' h₁
      obtain ⟨rfl, -⟩ : closing = closing' ∧ _ := by simpa using heq'
      exact ⟨rfl, rfl⟩

/-- Every derivation is settled.  The induction is on one derivation; at a level the other is split
into its first operand and what extends it, and loses one operator at each step. -/
theorem Derives.settled {n : Category} {p : List Token} {e : Expr} (h : Derives n p e) :
    Settled n p e := by
  induction h with
  | operand _ ih => exact Settled.operand ih
  | binary _ ho _ ihl ihr => exact Settled.binary ihl ho ihr
  | prefixed ho _ ih => exact Settled.prefixed ho ih
  | primary h ih => exact Settled.primary h.head_primary ih
  | constant hv => exact Settled.constant hv
  | carried hk hv => exact Settled.carried hk hv
  | grouping ho _ hc ih => exact Settled.grouping ho ih hc

/-- **The grammar is unambiguous.**  From one start, and up to where nothing can extend it, there
is at most one expression of a category. -/
theorem Derives.unique {n : Category} {p q p' q' : List Token} {e e' : Expr}
    (h : Derives n p e) (h' : Derives n p' e') (heq : p ++ q = p' ++ q') (hq : Stops n q)
    (hq' : Stops n q') : p = p' ∧ e = e' := by
  obtain ⟨rfl, rfl⟩ := h.settled.unique heq hq hq' h'
  exact ⟨rfl, rfl⟩

end Reckon
