import Reckon.Proofs.Lexemes
import Reckon.Proofs.Locations
import Reckon.Proofs.Reading
import Reckon.Run

/-!
# Fully parenthesised sources

A tree of operators over literals can be written down with a pair of parentheses around every
operator.  Running what is written comes to what evaluating the tree comes to, but for lines.

**Trees.**  `Tree` has numerals and texts that can be written as they are, the constants, and the
operators.  `Tree.source` writes it, and `Tree.expr` is the expression of its shape, without the
parentheses.

**Scanning.**  `segments_source_append` cuts up what is written, whatever stands behind it, as long
as the next character ends a number or a word.

**Reading.**  The tokens derive the tree with its parentheses (`Tree.derives`), which is twice as
deep as the tree without them: a pair of parentheses stands around every operator.

**Evaluation.**  `Expr.bare` takes the parentheses and the lines out of an expression, and its
value or its fault stays the same (`Expr.outcome_bare`).
-/

namespace Reckon

open Rules (Level)

/-! ## Trees -/

/-- A number as it is written: digits, and behind a point digits again, or no point. -/
structure Numeral where
  whole : List Char
  fraction : List Char
  whole_ne_nil : whole ≠ []
  whole_digits : ∀ c ∈ whole, c.isDigit = true
  fraction_digits : ∀ c ∈ fraction, c.isDigit = true

/-- The text of a numeral.  Without digits behind the point there is no point. -/
def Numeral.text (n : Numeral) : List Char :=
  if n.fraction = [] then n.whole else n.whole ++ '.' :: n.fraction

/-- The number that a numeral is read as. -/
def Numeral.value (n : Numeral) : Float :=
  (Number.Decimal.ofDigits n.whole n.fraction).toFloat

/-- A text that can be written between quotes. -/
structure Quotable where
  text : List Char
  no_quote : '"' ∉ text

/-- The symbol of an operator with one operand. -/
def UnaryOp.symbol : UnaryOp → List Char × Token.Kind
  | .negate => (['-'], .minus)
  | .not => (['!'], .bang)

/-- The symbol of an operator with two operands. -/
def BinaryOp.symbol : BinaryOp → List Char × Token.Kind
  | .add => (['+'], .plus)
  | .subtract => (['-'], .minus)
  | .multiply => (['*'], .star)
  | .divide => (['/'], .slash)
  | .greater => (['>'], .greater)
  | .greaterEqual => (['>', '='], .greaterEqual)
  | .less => (['<'], .less)
  | .lessEqual => (['<', '='], .lessEqual)
  | .equal => (['=', '='], .equalEqual)
  | .notEqual => (['!', '='], .bangEqual)

/-- Operators over literals. -/
inductive Tree where
  | number (n : Numeral)
  | string (s : Quotable)
  | bool (b : Bool)
  | nil
  | unary (op : UnaryOp) (operand : Tree)
  | binary (left : Tree) (op : BinaryOp) (right : Tree)

/-- The token of a symbol on a line. -/
def Token.ofSymbol (symbol : List Char × Token.Kind) (line : Nat) : Token :=
  ⟨symbol.2, String.ofList symbol.1, none, line⟩

namespace Tree

/-- A tree written with parentheses around every operator. -/
def source : Tree → List Char
  | .number n => n.text
  | .string s => '"' :: (s.text ++ ['"'])
  | .bool true => ['t', 'r', 'u', 'e']
  | .bool false => ['f', 'a', 'l', 's', 'e']
  | .nil => ['n', 'i', 'l']
  | .unary op operand => '(' :: (op.symbol.1 ++ operand.source ++ [')'])
  | .binary left op right =>
    '(' :: (left.source ++ ' ' :: op.symbol.1 ++ ' ' :: right.source ++ [')'])

/-- A tree as an expression.  It has no parentheses, and all of it is on one line. -/
def expr : Tree → Expr
  | .number n => .literal (.number n.value)
  | .string s => .literal (.string (String.ofList s.text))
  | .bool b => .literal (.bool b)
  | .nil => .literal .nil
  | .unary op operand => .unary (Token.ofSymbol op.symbol 1) operand.expr
  | .binary left op right => .binary left.expr (Token.ofSymbol op.symbol 1) right.expr

/-- The pieces that a tree is written with. -/
def pieces : Tree → List Segment
  | .number n => [⟨.number, n.text⟩]
  | .string s => [⟨.string, '"' :: (s.text ++ ['"'])⟩]
  | .bool true => [⟨.word, ['t', 'r', 'u', 'e']⟩]
  | .bool false => [⟨.word, ['f', 'a', 'l', 's', 'e']⟩]
  | .nil => [⟨.word, ['n', 'i', 'l']⟩]
  | .unary op operand =>
    ⟨.symbol .leftParen, ['(']⟩ :: ⟨.symbol op.symbol.2, op.symbol.1⟩ :: operand.pieces ++
      [⟨.symbol .rightParen, [')']⟩]
  | .binary left op right =>
    ⟨.symbol .leftParen, ['(']⟩ :: left.pieces ++
      ⟨.blank, [' ']⟩ :: ⟨.symbol op.symbol.2, op.symbol.1⟩ :: ⟨.blank, [' ']⟩ :: right.pieces ++
      [⟨.symbol .rightParen, [')']⟩]

end Tree

/-! ## Scanning -/

/-- Whether a text can stand behind a literal: it is empty, or starts with a blank or a closing
parenthesis. -/
def Delimits (rest : List Char) : Prop :=
  ∀ c ∈ rest.head?, c = ' ' ∨ c = ')'

/-- What stands behind a literal belongs to no form that a tree is written with. -/
lemma Delimits.mayGrow_eq_false {rest : List Char} (h : Delimits rest) {form : Segment.Form}
    (hform : form ≠ .lineComment) : ∀ c ∈ rest.head?, form.mayGrow c = false := by
  intro c hc
  cases form with
  | lineComment => exact absurd rfl hform
  | _ => rcases h c hc with rfl | rfl <;> rfl

/-- Whether a text starts with a character by which a symbol may grow. -/
def GrowsSymbol (rest : List Char) : Prop :=
  ∃ c ∈ rest.head?, c = '=' ∨ c = '/' ∨ c = '*'

lemma segments_symbol {symbol : List Char × Token.Kind} (h : symbol ∈ Token.Kind.symbols)
    {rest : List Char} (hrest : ¬ GrowsSymbol rest) :
    segments (symbol.1 ++ rest) = ⟨.symbol symbol.2, symbol.1⟩ :: segments rest := by
  have hfits : Segment.Fits ⟨.symbol symbol.2, symbol.1⟩ rest :=
    Segment.Lexeme.fits (.symbol h) rfl rest
  refine segments_text_append hfits fun c hc => ?_
  by_contra hgrow
  simp only [Segment.Form.mayGrow, Bool.not_eq_false, Bool.or_eq_true, beq_iff_eq,
    or_assoc] at hgrow
  exact hrest ⟨c, hc, hgrow⟩

/-- A literal is cut off whole before what can stand behind it. -/
lemma segments_literal {form : Segment.Form} {text rest : List Char}
    (hlex : Segment.Lexeme form text) (hform : form ≠ .lineComment) (hopen : form.isOpen = false)
    (h : Delimits rest) : segments (text ++ rest) = ⟨form, text⟩ :: segments rest :=
  segments_text_append (hlex.fits hopen rest) (h.mayGrow_eq_false hform)

lemma segments_space (rest : List Char) :
    segments (' ' :: rest) = ⟨.blank, [' ']⟩ :: segments rest := by
  rw [segments_cons, Segment.take_of_isSeparator (by decide)]

lemma Delimits.not_growsSymbol {rest : List Char} (h : Delimits rest) : ¬ GrowsSymbol rest := by
  rintro ⟨c, hc, hgrow⟩
  rcases h c hc with rfl | rfl <;> simp at hgrow

lemma segments_open {rest : List Char} (hrest : ¬ GrowsSymbol rest) :
    segments ('(' :: rest) = ⟨.symbol .leftParen, ['(']⟩ :: segments rest := by
  have hmem : (['('], Token.Kind.leftParen) ∈ Token.Kind.symbols := by decide
  exact segments_symbol hmem hrest

lemma segments_close {rest : List Char} (h : Delimits rest) :
    segments (')' :: rest) = ⟨.symbol .rightParen, [')']⟩ :: segments rest := by
  have hmem : ([')'], Token.Kind.rightParen) ∈ Token.Kind.symbols := by decide
  exact segments_symbol hmem h.not_growsSymbol

lemma UnaryOp.symbol_mem (op : UnaryOp) : op.symbol ∈ Token.Kind.symbols := by
  cases op <;> decide

lemma BinaryOp.symbol_mem (op : BinaryOp) : op.symbol ∈ Token.Kind.symbols := by
  cases op <;> decide

lemma Numeral.lexeme (n : Numeral) : Segment.Lexeme .number n.text := by
  unfold Numeral.text
  split
  · exact .whole n.whole_ne_nil n.whole_digits
  · rename_i hne
    exact .decimal n.whole_ne_nil n.whole_digits hne n.fraction_digits

namespace Tree

/-- No tree is written with a first character by which a symbol before it would grow. -/
lemma not_growsSymbol_source (t : Tree) (rest : List Char) : ¬ GrowsSymbol (t.source ++ rest) := by
  rintro ⟨c, hc, hgrow⟩
  cases t with
  | number n =>
      obtain ⟨first, digits, hwhole⟩ := List.exists_cons_of_ne_nil n.whole_ne_nil
      have hfirst : first.isDigit = true := n.whole_digits first (by simp [hwhole])
      have hcons : ∃ tail, n.text = first :: tail := by
        unfold Numeral.text
        split <;> simp [hwhole]
      obtain ⟨tail, htail⟩ := hcons
      obtain rfl : first = c := by simpa [source, htail] using hc
      rcases hgrow with rfl | rfl | rfl <;> exact Bool.noConfusion hfirst
  | bool b => cases b <;> simp [source] at hc <;> subst hc <;> simp at hgrow
  | _ =>
      simp only [source, List.cons_append, List.head?_cons, Option.mem_def, Option.some.injEq] at hc
      subst hc
      simp at hgrow

/-- A tree is cut up into its pieces, whatever stands behind it. -/
theorem segments_source_append (t : Tree) {rest : List Char} (h : Delimits rest) :
    segments (t.source ++ rest) = t.pieces ++ segments rest := by
  induction t generalizing rest with
  | number n => exact segments_literal n.lexeme (by simp) rfl h
  | string s => exact segments_literal (.string s.no_quote) (by simp) rfl h
  | bool b =>
      cases b <;>
        exact segments_literal (.word (by decide) (List.all_eq_true.mp (by decide))) (by simp) rfl h
  | nil =>
      exact segments_literal (.word (by decide) (List.all_eq_true.mp (by decide))) (by simp) rfl h
  | unary op operand ih =>
      have hclosed : Delimits (')' :: rest) := by simp [Delimits]
      have hop : ¬ GrowsSymbol (op.symbol.1 ++ (operand.source ++ ')' :: rest)) := by
        cases op <;> simp [GrowsSymbol, UnaryOp.symbol]
      have hsource : (Tree.unary op operand).source ++ rest =
          '(' :: (op.symbol.1 ++ (operand.source ++ ')' :: rest)) := by simp [source]
      rw [hsource, segments_open hop, segments_symbol op.symbol_mem
        (operand.not_growsSymbol_source _), ih hclosed, segments_close h]
      simp [pieces]
  | binary left op right ihl ihr =>
      have hclosed : Delimits (')' :: rest) := by simp [Delimits]
      have hspaced : ∀ text, Delimits (' ' :: text) := by simp [Delimits]
      have hsource : (Tree.binary left op right).source ++ rest =
          '(' :: (left.source ++ ' ' :: (op.symbol.1 ++ ' ' :: (right.source ++ ')' :: rest))) := by
        simp [source]
      rw [hsource, segments_open (left.not_growsSymbol_source _), ihl (hspaced _), segments_space,
        segments_symbol op.symbol_mem (hspaced _).not_growsSymbol, segments_space, ihr hclosed,
        segments_close h]
      simp [pieces]

end Tree

/-! ## Reading -/

/-- The tokens of pieces of which the first starts on a line. -/
def tokensFrom (line : Nat) (pieces : List Segment) : List Token :=
  (locate line pieces).filterMap Located.token?

lemma tokensFrom_append (line : Nat) (a b : List Segment) :
    tokensFrom line (a ++ b) =
      tokensFrom line a ++ tokensFrom (line + Text.lineFeeds (a.flatMap Segment.text)) b := by
  rw [tokensFrom, locate_append, List.filterMap_append]
  rfl

lemma tokensFrom_symbol (line : Nat) (symbol : List Char × Token.Kind) (rest : List Segment) :
    tokensFrom line (⟨.symbol symbol.2, symbol.1⟩ :: rest) =
      Token.ofSymbol symbol (line + Text.lineFeeds symbol.1) ::
        tokensFrom (line + Text.lineFeeds symbol.1) rest := by
  rw [tokensFrom, locate_cons]
  rfl

lemma tokensFrom_blank (line : Nat) (rest : List Segment) :
    tokensFrom line (⟨.blank, [' ']⟩ :: rest) = tokensFrom line rest := by
  rw [tokensFrom, locate_cons]
  rfl

/-- A source whose pieces have no faults is scanned to their tokens, and nothing is wrong. -/
lemma scan_of_segments {source : List Char} {pieces : List Segment}
    (hpieces : segments source = pieces) (hnone : ∀ piece ∈ pieces, piece.fault? = none) :
    scan (String.ofList source) =
      ⟨tokensFrom 1 pieces ++ [Token.endAt (1 + Text.lineFeeds source)], []⟩ := by
  have hfaults : (locate 1 pieces).filterMap Located.diagnostic? = [] := by
    rw [List.filterMap_eq_nil_iff]
    intro located hmem
    have hpiece := List.mem_map_of_mem (f := Located.segment) hmem
    rw [map_segment_locate] at hpiece
    rw [Located.diagnostic?, hnone located.segment hpiece, Option.map_none]
  simp only [scan, String.toList_ofList, hpieces, hfaults, tokensFrom]

/-- The level of a binary operator. -/
def BinaryOp.level : BinaryOp → Level
  | .add | .subtract => .term
  | .multiply | .divide => .factor
  | .greater | .greaterEqual | .less | .lessEqual => .comparison
  | .equal | .notEqual => .equality

lemma BinaryOp.symbol_mem_level (op : BinaryOp) : op.symbol.2 ∈ op.level.operators := by
  cases op <;> decide

lemma UnaryOp.symbol_mem_prefixes (op : UnaryOp) :
    op.symbol.2 ∈ [Token.Kind.minus, .bang] := by
  cases op <;> decide

/-- A literal or a pair of parentheses can stand wherever an operand can. -/
lemma Derives.of_primary {p : List Token} {e : Expr} (h : Derives .primary p e) (level : Level) :
    Derives (.level level) p e ∧ Derives level.operand p e := by
  have hfactor : Derives (.level .factor) p e := .operand (.primary h)
  have hterm : Derives (.level .term) p e := .operand hfactor
  have hcomparison : Derives (.level .comparison) p e := .operand hterm
  cases level with
  | equality => exact ⟨.operand hcomparison, hcomparison⟩
  | comparison => exact ⟨hcomparison, hterm⟩
  | term => exact ⟨hterm, hfactor⟩
  | factor => exact ⟨hfactor, .primary h⟩

/-- What is an expression of any level is an expression. -/
lemma Derives.expression_of_level {level : Level} {p : List Token} {e : Expr}
    (h : Derives (.level level) p e) : Derives .expression p e := by
  cases level with
  | equality => exact h
  | comparison => exact .operand h
  | term => exact .operand (.operand h)
  | factor => exact .operand (.operand (.operand h))

/-- An expression without its parentheses, and all of it on one line. -/
def Expr.bare : Expr → Expr
  | .literal v => .literal v
  | .grouping inner => inner.bare
  | .unary operator operand => .unary { operator with line := 1 } operand.bare
  | .binary left operator right => .binary left.bare { operator with line := 1 } right.bare

/-- Pieces that derive an expression derive it in parentheses if parentheses stand around them. -/
lemma derives_parenthesized {line : Nat} {inner : List Segment} {e : Expr}
    (h : Derives .expression (tokensFrom line inner) e) :
    Derives .primary
      (tokensFrom line (⟨.symbol .leftParen, ['(']⟩ :: inner ++ [⟨.symbol .rightParen, [')']⟩]))
      (.grouping e) := by
  rw [List.cons_append, tokensFrom_symbol line (['('], .leftParen), tokensFrom_append]
  exact Derives.grouping rfl h rfl

lemma Numeral.decimal_text (n : Numeral) :
    Segment.decimal n.text = .ofDigits n.whole n.fraction := by
  unfold Numeral.text
  split
  · rename_i hnil
    rw [Segment.decimal_whole n.whole_digits, hnil]
  · exact Segment.decimal_point n.whole_digits n.fraction

namespace Tree

/-- The tokens of a tree derive it in its parentheses, which are one more level for each operator.
The line on which the tree starts changes only the lines of the tokens. -/
lemma derives (t : Tree) (line : Nat) :
    ∃ e, Derives .primary (tokensFrom line t.pieces) e ∧ e.bare = t.expr ∧
      e.depth = 2 * t.expr.depth := by
  induction t generalizing line with
  | number n =>
      refine ⟨.literal (.number n.value), .carried (by simp) ?_, rfl, rfl⟩
      show some (Value.number (Segment.decimal n.text).toFloat) = some (.number n.value)
      rw [n.decimal_text, Numeral.value]
  | string s =>
      refine ⟨.literal (.string (String.ofList s.text)), .carried (by simp) ?_, rfl, rfl⟩
      show some (Value.string (String.ofList (Segment.unquoted _))) = _
      simp [Segment.unquoted]
  | bool b =>
      refine ⟨.literal (.bool b), ?_, rfl, rfl⟩
      cases b <;> exact .constant (by rfl)
  | nil => exact ⟨.literal .nil, .constant (by rfl), rfl, rfl⟩
  | unary op operand ih =>
      obtain ⟨e, hder, hbare, hdepth⟩ := ih (line + Text.lineFeeds op.symbol.1)
      let symbol := Token.ofSymbol op.symbol (line + Text.lineFeeds op.symbol.1)
      have hinner : Derives .expression
          (tokensFrom line (⟨.symbol op.symbol.2, op.symbol.1⟩ :: operand.pieces))
          (.unary symbol e) := by
        rw [tokensFrom_symbol]
        have hunary : Derives .unary (symbol :: tokensFrom symbol.line operand.pieces)
            (.unary symbol e) := .prefixed op.symbol_mem_prefixes hder.primary
        have hfactor : Derives (.level .factor) _ _ := .operand hunary
        exact hfactor.expression_of_level
      refine ⟨.grouping (.unary symbol e), derives_parenthesized hinner, ?_, ?_⟩
      · simp only [Expr.bare, expr, hbare]
        rfl
      · simp only [Expr.depth, expr, hdepth]
        omega
  | binary left op right ihl ihr =>
      let behind := line + Text.lineFeeds (left.pieces.flatMap Segment.text)
      let symbol := Token.ofSymbol op.symbol (behind + Text.lineFeeds op.symbol.1)
      obtain ⟨l, hderl, hbarel, hdepthl⟩ := ihl line
      obtain ⟨r, hderr, hbarer, hdepthr⟩ := ihr symbol.line
      have hinner : Derives .expression
          (tokensFrom line (left.pieces ++ ⟨.blank, [' ']⟩ :: ⟨.symbol op.symbol.2, op.symbol.1⟩ ::
            ⟨.blank, [' ']⟩ :: right.pieces)) (.binary l symbol r) := by
        rw [tokensFrom_append, tokensFrom_blank, tokensFrom_symbol, tokensFrom_blank]
        exact Derives.expression_of_level
          ((hderl.of_primary op.level).1.binary op.symbol_mem_level (hderr.of_primary op.level).2)
      refine ⟨.grouping (.binary l symbol r), derives_parenthesized hinner, ?_, ?_⟩
      · simp only [Expr.bare, expr, hbarel, hbarer]
        rfl
      · simp only [Expr.depth, expr, hdepthl, hdepthr]
        omega

lemma fault?_of_mem_pieces (t : Tree) : ∀ piece ∈ t.pieces, piece.fault? = none := by
  induction t with
  | bool b => cases b <;> simp [pieces, Segment.fault?]
  | unary op operand ih => simpa [pieces, Segment.fault?, or_imp, forall_and] using ih
  | binary left op right ihl ihr =>
      simpa [pieces, Segment.fault?, or_imp, forall_and] using ⟨ihl, ihr⟩
  | _ => simp [pieces, Segment.fault?]

/-- What scanning makes of a written tree: the tokens of its pieces, and nothing is wrong. -/
lemma scan_source (t : Tree) :
    ∃ line, scan (String.ofList t.source) = ⟨tokensFrom 1 t.pieces ++ [Token.endAt line], []⟩ := by
  have hpieces : segments t.source = t.pieces := by
    have happend : segments (t.source ++ []) = t.pieces ++ segments [] :=
      t.segments_source_append (by simp [Delimits])
    simpa using happend
  exact ⟨_, scan_of_segments hpieces t.fault?_of_mem_pieces⟩

end Tree

/-! ## Evaluation -/

/-- What an expression comes to: its value, or what is wrong with it but not where. -/
def Expr.outcome (e : Expr) : Except Fault Value :=
  e.eval.mapError Diagnostic.fault

lemma Expr.outcome_eq_ok {e : Expr} {v : Value} : e.outcome = .ok v ↔ e.eval = .ok v := by
  unfold outcome
  cases e.eval <;> simp [Except.mapError]

lemma Expr.outcome_eq_error {e : Expr} {fault : Fault} :
    e.outcome = .error fault ↔ ∃ line, e.eval = .error ⟨fault, line⟩ := by
  unfold outcome
  cases e.eval with
  | ok v => simp [Except.mapError]
  | error d =>
      obtain ⟨found, line⟩ := d
      simp [Except.mapError]

lemma mapError_bind {α β ε ε' : Type} (f : ε → ε') (x : Except ε α) (g : α → Except ε β) :
    (x >>= g).mapError f = x.mapError f >>= fun a => (g a).mapError f := by
  cases x <;> rfl

/-- The line of an operator does not change what is wrong with its operands. -/
lemma Token.mapError_mismatch_atLine (operator : Token) (line : Nat) (x : Except Mismatch Value) :
    (x.mapError { operator with line := line }.mismatch).mapError Diagnostic.fault =
      (x.mapError operator.mismatch).mapError Diagnostic.fault := by
  cases x with
  | ok v => rfl
  | error why => cases why <;> rfl

lemma Token.applyUnary_atLine (operator : Token) (line : Nat) (v : Value) :
    ({ operator with line := line }.applyUnary v).mapError Diagnostic.fault =
      (operator.applyUnary v).mapError Diagnostic.fault := by
  simp only [applyUnary]
  cases operator.kind.unaryOp? with
  | none => rfl
  | some op => exact operator.mapError_mismatch_atLine line (op.apply v)

lemma Token.applyBinary_atLine (operator : Token) (line : Nat) (v w : Value) :
    ({ operator with line := line }.applyBinary v w).mapError Diagnostic.fault =
      (operator.applyBinary v w).mapError Diagnostic.fault := by
  simp only [applyBinary]
  cases operator.kind.binaryOp? with
  | none => rfl
  | some op => exact operator.mapError_mismatch_atLine line (op.apply v w)

lemma Expr.outcome_unary (operator : Token) (operand : Expr) :
    (Expr.unary operator operand).outcome = operand.outcome >>= fun v =>
      (operator.applyUnary v).mapError Diagnostic.fault :=
  mapError_bind _ _ _

lemma Expr.outcome_binary (left : Expr) (operator : Token) (right : Expr) :
    (Expr.binary left operator right).outcome = left.outcome >>= fun v =>
      right.outcome >>= fun w => (operator.applyBinary v w).mapError Diagnostic.fault := by
  simp only [outcome, eval, mapError_bind]

/-- Neither parentheses nor lines change what an expression comes to. -/
theorem Expr.outcome_bare (e : Expr) : e.bare.outcome = e.outcome := by
  induction e with
  | literal v => rfl
  | grouping inner ih => exact ih
  | unary operator operand ih =>
      simp only [bare, outcome_unary, ih, Token.applyUnary_atLine]
  | binary left operator right ihl ihr =>
      simp only [bare, outcome_binary, ihl, ihr, Token.applyBinary_atLine]

/-! ## Running -/

namespace Tree

/-- The expression that a written tree is read as stands at the head of its tokens. -/
lemma heads (t : Tree) :
    ∃ tokens p e, scan (String.ofList t.source) = ⟨tokens, []⟩ ∧ Heads tokens p e ∧
      e.bare = t.expr ∧ e.depth = 2 * t.expr.depth := by
  obtain ⟨line, hscan⟩ := t.scan_source
  obtain ⟨e, hder, hbare, hdepth⟩ := t.derives 1
  have hexpr : Derives .expression (tokensFrom 1 t.pieces) e := (hder.of_primary .equality).1
  refine ⟨_, _, e, hscan, ⟨[], ?_, hexpr, by simp⟩, hbare, hdepth⟩
  rw [beforeEnd_append hder.isEnd_eq_false]
  rfl

end Tree

/-- **Fully parenthesised sources run as their trees evaluate.**  Each operator costs two levels of
depth, one for itself and one for its parentheses, so a tree can be half as deep as an expression.
One that is deeper is refused for that and nothing else. -/
theorem run_source (t : Tree) :
    (t.expr.depth ≤ 50 →
      (∀ v, t.expr.eval = .ok v → run (String.ofList t.source) = .ok v) ∧
      (∀ d, t.expr.eval = .error d →
        ∃ line, run (String.ofList t.source) = .error [⟨d.fault, line⟩])) ∧
    (50 < t.expr.depth →
      ∃ line, run (String.ofList t.source) = .error [⟨.tooDeeplyNested maxDepth, line⟩]) := by
  obtain ⟨tokens, p, e, hscan, hheads, hbare, hdepth⟩ := t.heads
  rw [run_of_scan hscan]
  refine ⟨fun hle => ?_, fun hlt => ?_⟩
  · have hparse : parse tokens = .ok e := hheads.parse_eq_ok (by rw [hdepth, maxDepth]; omega)
    have houtcome : e.outcome = t.expr.outcome := by rw [← hbare, Expr.outcome_bare]
    rw [hparse]
    refine ⟨fun v hv => ?_, fun d hd => ?_⟩
    · rw [Expr.outcome_eq_ok.mpr hv, Expr.outcome_eq_ok] at houtcome
      exact congrArg (Except.mapError ([·])) houtcome
    · rw [Expr.outcome_eq_error.mpr ⟨d.line, hd⟩, Expr.outcome_eq_error] at houtcome
      obtain ⟨line, herror⟩ := houtcome
      exact ⟨line, congrArg (Except.mapError ([·])) herror⟩
  · obtain ⟨line, hparse⟩ := hheads.parse_eq_tooDeep (by rw [hdepth, maxDepth]; omega)
    rw [hparse]
    exact ⟨line, rfl⟩

/-- A truth value negated a number of times. -/
def nots : Nat → Tree
  | 0 => .bool true
  | n + 1 => .unary .not (nots n)

lemma depth_nots (n : Nat) : (nots n).expr.depth = n := by
  induction n with
  | zero => rfl
  | succ n ih => rw [nots, Tree.expr, Expr.depth, ih]

example : (nots 2).source = "(!(!true))".toList := by decide

/-- Fifty negations are evaluated, and one more is refused. -/
theorem run_fifty_nots :
    run (String.ofList (nots 50).source) = .ok (.bool true) ∧
    ∃ line, run (String.ofList (nots 51).source) = .error [⟨.tooDeeplyNested maxDepth, line⟩] := by
  have hdepth : (nots 50).expr.depth ≤ 50 := Nat.le_of_eq (depth_nots 50)
  have hdeep : 50 < (nots 51).expr.depth := Nat.le_of_eq (depth_nots 51).symm
  exact ⟨((run_source _).1 hdepth).1 _ rfl, (run_source _).2 hdeep⟩

end Reckon
