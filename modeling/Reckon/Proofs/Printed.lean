import Reckon.Proofs.Anchors
import Reckon.Proofs.LiteralText

/-!
# The text of an expression can be read in one way

`Expr.text` writes the operator of each node before its operands.  Two expressions that were parsed
from sources are written alike exactly if they have the same shape, the same kinds of operator, and
literals that are equal or numbers written alike.

**Operators.**  A scanner cuts operators out of a source as they stand in the table of symbols, so
that their kind shows in how they are written, and none of them is written like the name of a pair
of parentheses.

**Nodes.**  A node is written as a name and operands (`Expr.Node`).  How many operands there are
shows behind each of them, by a blank or a closing parenthesis, which tells a minus sign with one
operand from one with two.  A node can be read if its operands can (`Expr.Node.legible`), and so all
expressions can.
-/

namespace Reckon

/-! ## Operators -/

/-- Whether a token is an operator and written as operators of its kind are. -/
def Token.Spelled (t : Token) : Prop :=
  t.kind.isOperator = true ∧ (t.lexeme.toList, t.kind) ∈ Token.Kind.symbols

/-- Whether all operators of an expression are written as they should be. -/
def Expr.Spelled (e : Expr) : Prop :=
  ∀ t ∈ e.operators, t.Spelled

/-- An operator that is cut out of a source is a symbol of the table. -/
lemma Segment.Denotes.spelled {piece : Segment} {t : Token} (h : Denotes piece t)
    (hlex : Lexeme piece.form piece.text) (hop : t.kind.isOperator = true) : t.Spelled := by
  cases h with
  | @symbol kind text line =>
      cases hlex with
      | symbol hmem => exact ⟨hop, by simpa using hmem⟩
  | _ => cases hop

lemma Token.spelled_of_mem_tokens {source : String} {t : Token} (h : t ∈ (scan source).tokens)
    (hop : t.kind.isOperator = true) : t.Spelled := by
  rcases mem_tokens_scan h with rfl | ⟨located, hmem, htoken⟩
  · cases hop
  · obtain ⟨_, _, _, _, hfits⟩ := exists_of_mem_locate_segments hmem
    exact (Located.denotes_of_token? hfits.lexeme htoken).spelled hfits.lexeme hop

lemma Expr.spelled_of_parse {source : String} {e : Expr}
    (h : parse (scan source).tokens = .ok e) : e.Spelled := by
  intro t ht
  obtain ⟨hmem, hop⟩ := mem_of_parse_eq_ok h t ht
  exact Token.spelled_of_mem_tokens hmem hop

@[simp] lemma Expr.spelled_grouping {inner : Expr} :
    (Expr.grouping inner).Spelled ↔ inner.Spelled :=
  Iff.rfl

@[simp] lemma Expr.spelled_unary {operator : Token} {operand : Expr} :
    (Expr.unary operator operand).Spelled ↔ operand.Spelled ∧ operator.Spelled := by
  simp [Spelled, operators, or_imp, forall_and]

@[simp] lemma Expr.spelled_binary {left right : Expr} {operator : Token} :
    (Expr.binary left operator right).Spelled ↔
      left.Spelled ∧ right.Spelled ∧ operator.Spelled := by
  simp [Spelled, operators, or_imp, forall_and]

namespace Token.Spelled

lemma bare_lexeme {t : Token} (h : t.Spelled) : Bare t.lexeme.toList := by
  have hall : ∀ symbol ∈ Token.Kind.symbols, symbol.2.isOperator = true →
      symbol.1.all (fun c => c ∉ [' ', ')', '(', '"']) = true := by decide
  intro c hc
  exact of_decide_eq_true (List.all_eq_true.mp (hall _ h.2 h.1) c hc)

lemma lexeme_ne_group {t : Token} (h : t.Spelled) : t.lexeme.toList ≠ "group".toList := by
  have hall : ∀ symbol ∈ Token.Kind.symbols, symbol.1 ≠ "group".toList := by decide
  exact hall _ h.2

/-- The kind of an operator can be told from how it is written, and the other way round. -/
lemma kind_eq_iff {t t' : Token} (h : t.Spelled) (h' : t'.Spelled) :
    t.kind = t'.kind ↔ t.lexeme = t'.lexeme := by
  have hall : ∀ symbol ∈ Token.Kind.symbols, ∀ symbol' ∈ Token.Kind.symbols,
      symbol.2 = symbol'.2 ↔ symbol.1 = symbol'.1 := by decide
  exact (hall _ h.2 _ h'.2).trans String.toList_inj

end Token.Spelled

/-! ## Nodes -/

namespace Expr

/-- Two expressions of one shape, with operators of the same kinds and literals that are equal or
written alike. -/
inductive Resembles : Expr → Expr → Prop where
  | literal {v w : Value} (h : v.Resembles w) : Resembles (.literal v) (.literal w)
  | grouping {e e' : Expr} (h : Resembles e e') : Resembles (.grouping e) (.grouping e')
  | unary {operator operator' : Token} (hk : operator.kind = operator'.kind) {e e' : Expr}
      (h : Resembles e e') : Resembles (.unary operator e) (.unary operator' e')
  | binary {operator operator' : Token} (hk : operator.kind = operator'.kind) {l l' r r' : Expr}
      (hl : Resembles l l') (hr : Resembles r r') :
      Resembles (.binary l operator r) (.binary l' operator' r')

/-- The name and the operands that a node is written with. -/
inductive Node : Expr → List Char → List Expr → Prop where
  | grouping (inner : Expr) : Node (.grouping inner) "group".toList [inner]
  | unary (operator : Token) (operand : Expr) :
      Node (.unary operator operand) operator.lexeme.toList [operand]
  | binary (left : Expr) (operator : Token) (right : Expr) :
      Node (.binary left operator right) operator.lexeme.toList [left, right]

/-- Operands as they stand behind a name, each behind a blank. -/
def operandsText (operands : List Expr) : List Char :=
  operands.flatMap fun operand => ' ' :: operand.text.toList

lemma delimits_operandsText (operands : List Expr) (rest : List Char) :
    Delimits (operandsText operands ++ ')' :: rest) := by
  cases operands <;> simp [Delimits, operandsText]

lemma Node.text_append {e : Expr} {name : List Char} {operands : List Expr}
    (h : Node e name operands) (rest : List Char) :
    e.text.toList ++ rest = '(' :: (name ++ (operandsText operands ++ ')' :: rest)) := by
  cases h <;> simp [text, operandsText]

lemma Node.bare_name {e : Expr} {name : List Char} {operands : List Expr}
    (h : Node e name operands) (he : e.Spelled) : Bare name := by
  cases h with
  | grouping inner => simp [Bare]
  | unary operator operand => exact (spelled_unary.mp he).2.bare_lexeme
  | binary left operator right => exact (spelled_binary.mp he).2.2.bare_lexeme

/-- The operands of a node are written as they should be if the node is. -/
lemma Node.spelled_operands {e : Expr} {name : List Char} {operands : List Expr}
    (h : Node e name operands) (he : e.Spelled) : ∀ operand ∈ operands, operand.Spelled := by
  cases h with
  | grouping inner => simpa using he
  | unary operator inner => simpa using (spelled_unary.mp he).1
  | binary left operator right =>
      obtain ⟨hleft, hright, -⟩ := spelled_binary.mp he
      simpa using ⟨hleft, hright⟩

/-- Nodes resemble each other if their names are the same and their operands resemble each other. -/
lemma Node.resembles {e e' : Expr} {name name' : List Char} {operands operands' : List Expr}
    (h : Node e name operands) (h' : Node e' name' operands') (he : e.Spelled) (he' : e'.Spelled)
    (hname : name = name') (hoperands : List.Forall₂ Resembles operands operands') :
    e.Resembles e' := by
  cases h with
  | grouping inner =>
      cases h' with
      | grouping inner' => exact .grouping (by simpa using hoperands)
      | unary _ _ => exact absurd hname.symm (spelled_unary.mp he').2.lexeme_ne_group
      | binary _ _ _ => exact absurd hname.symm (spelled_binary.mp he').2.2.lexeme_ne_group
  | unary operator operand =>
      have ht := (spelled_unary.mp he).2
      cases h' with
      | grouping _ => exact absurd hname ht.lexeme_ne_group
      | unary operator' operand' =>
          have hk := (ht.kind_eq_iff (spelled_unary.mp he').2).mpr (String.toList_inj.mp hname)
          exact .unary hk (by simpa using hoperands)
      | binary _ _ _ => simp at hoperands
  | binary left operator right =>
      have ht := (spelled_binary.mp he).2.2
      cases h' with
      | grouping _ => exact absurd hname ht.lexeme_ne_group
      | unary _ _ => simp at hoperands
      | binary left' operator' right' =>
          have hk := (ht.kind_eq_iff (spelled_binary.mp he').2.2).mpr (String.toList_inj.mp hname)
          obtain ⟨hleft, hright⟩ : left.Resembles left' ∧ right.Resembles right' := by
            simpa using hoperands
          exact .binary hk hleft hright

lemma literal_or_node (e : Expr) :
    (∃ v, e = .literal v) ∨ ∃ name operands, Node e name operands := by
  cases e with
  | literal v => exact .inl ⟨v, rfl⟩
  | grouping inner => exact .inr ⟨_, _, .grouping inner⟩
  | unary operator operand => exact .inr ⟨_, _, .unary operator operand⟩
  | binary left operator right => exact .inr ⟨_, _, .binary left operator right⟩

/-- Whether an expression can be told from what is behind it. -/
def Legible (e : Expr) : Prop :=
  ∀ ⦃e' : Expr⦄ ⦃r r' : List Char⦄, e'.Spelled → Delimits r → Delimits r' →
    e.text.toList ++ r = e'.text.toList ++ r' → e.Resembles e' ∧ r = r'

lemma legible_literal (v : Value) : Legible (.literal v) := by
  intro e' r r' he' hr hr' h
  rcases e'.literal_or_node with ⟨w, rfl⟩ | ⟨name, operands, hnode⟩
  · obtain ⟨hvw, rfl⟩ := literal_append_inj hr hr' h
    exact ⟨.literal hvw, rfl⟩
  · rw [hnode.text_append] at h
    exact absurd h (literalText_ne_cons v hr _)

/-- Operands that can be told from what is behind them can be told from what is behind all of
them. -/
lemma operandsText_append_inj {operands operands' : List Expr} {r r' : List Char}
    (hlegible : ∀ operand ∈ operands, operand.Legible)
    (hspelled : ∀ operand ∈ operands', operand.Spelled)
    (h : operandsText operands ++ ')' :: r = operandsText operands' ++ ')' :: r') :
    List.Forall₂ Resembles operands operands' ∧ r = r' := by
  induction operands generalizing operands' with
  | nil =>
      cases operands' with
      | nil => exact ⟨.nil, (List.cons.inj h).2⟩
      | cons operand' rest' => simp [operandsText] at h
  | cons operand rest ih =>
      cases operands' with
      | nil => simp [operandsText] at h
      | cons operand' rest' =>
          obtain ⟨hoperand, hrest⟩ := List.forall_mem_cons.mp hlegible
          obtain ⟨hoperand', hrest'⟩ := List.forall_mem_cons.mp hspelled
          have hfirst : operand.text.toList ++ (operandsText rest ++ ')' :: r) =
              operand'.text.toList ++ (operandsText rest' ++ ')' :: r') := by
            simpa [operandsText] using h
          obtain ⟨hresembles, hbehind⟩ := hoperand hoperand' (delimits_operandsText rest r)
            (delimits_operandsText rest' r') hfirst
          obtain ⟨hall, rfl⟩ := ih hrest hrest' hbehind
          exact ⟨.cons hresembles hall, rfl⟩

/-- **A node can be read if its operands can.** -/
lemma Node.legible {e : Expr} {name : List Char} {operands : List Expr} (h : Node e name operands)
    (he : e.Spelled) (hlegible : ∀ operand ∈ operands, operand.Legible) : e.Legible := by
  intro e' r r' he' hr hr' htext
  rw [h.text_append] at htext
  rcases e'.literal_or_node with ⟨w, rfl⟩ | ⟨name', operands', h'⟩
  · exact absurd htext.symm (literalText_ne_cons w hr' _)
  · rw [h'.text_append] at htext
    obtain ⟨hname, hoperands⟩ := (h.bare_name he).append_inj (h'.bare_name he')
      (delimits_operandsText operands r) (delimits_operandsText operands' r')
      (List.cons.inj htext).2
    obtain ⟨hresemble, rfl⟩ :=
      operandsText_append_inj hlegible (h'.spelled_operands he') hoperands
    exact ⟨h.resembles h' he he' hname hresemble, rfl⟩

/-- **Every expression with operators as they should be written can be read.** -/
lemma Spelled.legible {e : Expr} (h : e.Spelled) : e.Legible := by
  induction e with
  | literal v => exact legible_literal v
  | grouping inner ih => exact (Node.grouping inner).legible h (by simpa using ih h)
  | unary operator operand ih =>
      have hoperand := (spelled_unary.mp h).1
      exact (Node.unary operator operand).legible h (by simpa using ih hoperand)
  | binary left operator right ihl ihr =>
      obtain ⟨hleft, hright, -⟩ := spelled_binary.mp h
      exact (Node.binary left operator right).legible h (by simpa using ⟨ihl hleft, ihr hright⟩)

/-! ## Parsed expressions -/

/-- Expressions that resemble each other are written alike. -/
lemma Resembles.text_eq {e e' : Expr} (h : e.Resembles e') (he : e.Spelled) (he' : e'.Spelled) :
    e.text = e'.text := by
  induction h with
  | literal hvw =>
      cases hvw with
      | number hnumber => exact hnumber
      | _ => rfl
  | grouping _ ih => rw [text, text, ih he he']
  | unary hk _ ih =>
      obtain ⟨hoperand, ht⟩ := spelled_unary.mp he
      obtain ⟨hoperand', ht'⟩ := spelled_unary.mp he'
      rw [text, text, (ht.kind_eq_iff ht').mp hk, ih hoperand hoperand']
  | binary hk _ _ ihl ihr =>
      obtain ⟨hleft, hright, ht⟩ := spelled_binary.mp he
      obtain ⟨hleft', hright', ht'⟩ := spelled_binary.mp he'
      rw [text, text, (ht.kind_eq_iff ht').mp hk, ihl hleft hleft', ihr hright hright']

/-- **What is written can be read in one way.**  Expressions that were parsed from any two sources,
with or without faults in them, are written alike exactly if they have the same shape, operators of
the same kinds, and literals that are equal or numbers written alike. -/
theorem text_eq_iff_resembles {source source' : String} {e e' : Expr}
    (h : parse (scan source).tokens = .ok e) (h' : parse (scan source').tokens = .ok e') :
    e.text = e'.text ↔ e.Resembles e' := by
  have he : e.Spelled := spelled_of_parse h
  have he' : e'.Spelled := spelled_of_parse h'
  refine ⟨fun htext => ?_, fun hresembles => hresembles.text_eq he he'⟩
  have hnothing : Delimits [] := by simp [Delimits]
  exact (he.legible he' hnothing hnothing (by rw [htext])).1

/-- A number with a minus sign, compared with a string that looks like the end of a node. -/
def negatedAndClosing (line : Nat) (x : Float) : Expr :=
  .binary (.unary ⟨.minus, "-", none, line⟩ (.literal (.number x))) ⟨.equalEqual, "==", none, line⟩
    (.literal (.string ") ("))

lemma parse_negatedAndClosing (line : Nat) (lexeme : String) (x : Float) :
    parse [⟨.minus, "-", none, line⟩, ⟨.number, lexeme, some (.number x), line⟩,
      ⟨.equalEqual, "==", none, line⟩, ⟨.string, "\") (\"", some (.string ") ("), line⟩,
      Token.endAt line] = .ok (negatedAndClosing line x) := by
  have hnumber : Derives .primary [⟨.number, lexeme, some (.number x), line⟩]
      (.literal (.number x)) := .carried (by simp) rfl
  have hstring : Derives .primary [⟨.string, "\") (\"", some (.string ") ("), line⟩]
      (.literal (.string ") (")) := .carried (by simp) rfl
  have hminus : Derives .unary
      [⟨.minus, "-", none, line⟩, ⟨.number, lexeme, some (.number x), line⟩]
      (.unary ⟨.minus, "-", none, line⟩ (.literal (.number x))) :=
    .prefixed (by simp) hnumber.primary
  have hfactor : Derives (.level .factor) _ _ := .operand hminus
  have hequality : Derives .expression _ (negatedAndClosing line x) :=
    Derives.binary hfactor.expression_of_level (by simp [Rules.Level.operators])
      (hstring.of_primary .equality).2
  exact Heads.parse_eq_ok ⟨[], rfl, hequality, by simp⟩
    (by simp [negatedAndClosing, depth, maxDepth])

/-- Spaces, lines and zeros make no difference to how an expression is written. -/
theorem resembles_negatedAndClosing :
    ∃ x, parse (scan "-1 == \") (\"").tokens = .ok (negatedAndClosing 1 x) ∧
      parse (scan "\n- 1.0==\") (\"").tokens = .ok (negatedAndClosing 2 x) ∧
      (negatedAndClosing 1 x).text = (negatedAndClosing 2 x).text ∧
      (negatedAndClosing 1 x).Resembles (negatedAndClosing 2 x) := by
  have hpieces : segments "-1 == \") (\"".toList = [⟨.symbol .minus, ['-']⟩, ⟨.number, ['1']⟩,
      ⟨.blank, [' ']⟩, ⟨.symbol .equalEqual, ['=', '=']⟩, ⟨.blank, [' ']⟩,
      ⟨.string, ['"', ')', ' ', '(', '"']⟩] := by decide +kernel
  have hpieces' : segments "\n- 1.0==\") (\"".toList = [⟨.blank, ['\n']⟩, ⟨.symbol .minus, ['-']⟩,
      ⟨.blank, [' ']⟩, ⟨.number, ['1', '.', '0']⟩, ⟨.symbol .equalEqual, ['=', '=']⟩,
      ⟨.string, ['"', ')', ' ', '(', '"']⟩] := by decide +kernel
  have hcode : (Segment.decimal ['1', '.', '0']).code = (Segment.decimal ['1']).code := by decide
  have hparse : parse (scan "-1 == \") (\"").tokens =
      .ok (negatedAndClosing 1 (Segment.decimal ['1']).toFloat) := by
    simp only [scan, hpieces]
    exact parse_negatedAndClosing 1 "1" _
  have hparse' : parse (scan "\n- 1.0==\") (\"").tokens =
      .ok (negatedAndClosing 2 (Segment.decimal ['1']).toFloat) := by
    rw [Number.Decimal.toFloat, ← hcode]
    simp only [scan, hpieces']
    exact parse_negatedAndClosing 2 "1.0" _
  exact ⟨_, hparse, hparse', rfl, (text_eq_iff_resembles hparse hparse').mp rfl⟩

end Expr

end Reckon
