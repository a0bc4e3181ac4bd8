import Mathlib.Data.List.Basic
import Mathlib.Data.List.Forall2
import Mathlib.Data.List.TakeWhile
import Mathlib.Tactic.Common
import Reckon.Proofs.CharacterClasses
import Reckon.Proofs.Pieces

/-!
# Scanning cuts at the longest match

What the pieces of a source are, said without a scanner, and that scanning finds them.

**Forms.**  `Lexeme form text` says which texts have a form: symbols by their table, strings and
comments by what does not occur in them, numbers and words by their characters.  A text that may
stand only at the very end, because something in it is never closed, has an open form.

**Longest match.**  A piece is the longest at the start of a source if no other piece that the
source could start with is longer.  `Fits.cutsAtLeast` compares any such piece with the one
that is cut off: they are the same, or the one that is cut off is longer, and the next character
belongs to it.  So what is cut off is the only longest piece (`longest_iff_take`).

**Decompositions.**  A source is cut up if its pieces together are all of it and each is the
longest at its start.  There is one way to cut up a source, and its pieces yield the tokens and
the faults of the source.
-/

namespace Reckon

lemma Keyword.mem_all (word : Keyword) : word ∈ Keyword.all := by
  cases word <;> decide

namespace Segment

/-! ## Forms -/

/-- Whether a character starts no symbol, string, number, word or blank. -/
def IsOther (c : Char) : Prop :=
  c ≠ '"' ∧ isSeparator c = false ∧ c.isDigit = false ∧ startsWord c = false ∧
    ∀ symbol ∈ Token.Kind.symbols, symbol.1.head? ≠ some c

/-- The texts of a form.  The end of a comment is the first `*/` behind its opening: there is none
in the text without its last character. -/
inductive Lexeme : Form → List Char → Prop where
  | symbol {text : List Char} {kind : Token.Kind} (h : (text, kind) ∈ Token.Kind.symbols) :
      Lexeme (.symbol kind) text
  | string {body : List Char} (h : '"' ∉ body) : Lexeme .string ('"' :: (body ++ ['"']))
  | whole {digits : List Char} (hne : digits ≠ []) (hd : ∀ c ∈ digits, c.isDigit = true) :
      Lexeme .number digits
  | decimal {digits fraction : List Char} (hne : digits ≠ [])
      (hd : ∀ c ∈ digits, c.isDigit = true) (hne' : fraction ≠ [])
      (hd' : ∀ c ∈ fraction, c.isDigit = true) : Lexeme .number (digits ++ '.' :: fraction)
  | word {c : Char} {rest : List Char} (hc : startsWord c = true)
      (hr : ∀ d ∈ rest, continuesWord d = true) : Lexeme .word (c :: rest)
  | blank {c : Char} (h : isSeparator c = true) : Lexeme .blank [c]
  | lineComment {body : List Char} (h : '\n' ∉ body) : Lexeme .lineComment ('/' :: '/' :: body)
  | blockComment {body : List Char} (h : ¬ ['*', '/'] <:+: body ++ ['*']) :
      Lexeme .blockComment ('/' :: '*' :: (body ++ ['*', '/']))
  | stray {c : Char} (h : IsOther c) : Lexeme .stray [c]
  | openString {body : List Char} (h : '"' ∉ body) : Lexeme .openString ('"' :: body)
  | openComment {body : List Char} (h : ¬ ['*', '/'] <:+: body) :
      Lexeme .openComment ('/' :: '*' :: body)

/-- Whether a piece of a form is never closed, so that it must be the last. -/
def Form.isOpen : Form → Bool
  | .openString | .openComment => true
  | _ => false

/-- A piece that can stand before the rest of a source. -/
structure Fits (piece : Segment) (rest : List Char) : Prop where
  lexeme : Lexeme piece.form piece.text
  last : piece.form.isOpen = true → rest = []

/-- A piece whose form is not open can stand before anything. -/
lemma Lexeme.fits {form : Form} {text : List Char} (h : Lexeme form text)
    (hclosed : form.isOpen = false) (rest : List Char) : Fits ⟨form, text⟩ rest := by
  refine ⟨h, fun hopen => ?_⟩
  rw [hclosed] at hopen
  cases hopen

/-- A piece that can stand before the rest of a source, and that is no shorter than any other that
the same source could start with. -/
def Longest (piece : Segment) (rest : List Char) : Prop :=
  piece.Fits rest ∧ ∀ (other : Segment) (rest' : List Char),
    other.text ++ rest' = piece.text ++ rest → other.Fits rest' →
      other.text.length ≤ piece.text.length

/-! ## What is cut off, by the first character -/

lemma take_quote (rest : List Char) : take '"' rest = takeString rest := by
  simp [take]

lemma take_slash_slash (rest : List Char) :
    take '/' ('/' :: rest) = takeLineComment ('/' :: '/' :: rest) := by
  simp [take]

lemma take_slash_star (rest : List Char) : take '/' ('*' :: rest) = takeBlockComment rest := by
  simp [take]

lemma take_of_isSeparator {c : Char} (h : isSeparator c = true) (rest : List Char) :
    take c rest = (⟨.blank, [c]⟩, rest) := by
  have hc := toNat_le_of_isSeparator h
  have hquote : c ≠ '"' := by rintro rfl; simp at hc
  have hslash : c ≠ '/' := by rintro rfl; simp at hc
  simp [take, hquote, hslash, h]

lemma take_of_isDigit {c : Char} (h : c.isDigit = true) (rest : List Char) :
    take c rest = takeNumber (c :: rest) := by
  have hc : 48 ≤ c.toNat ∧ c.toNat ≤ 57 := Char.isDigit_iff_toNat.mp h
  have hquote : c ≠ '"' := by rintro rfl; simp at hc
  have hslash : c ≠ '/' := by rintro rfl; simp at hc
  have hsep : ¬ isSeparator c = true := fun hsep => by
    have := toNat_le_of_isSeparator hsep
    omega
  simp [take, hquote, hslash, hsep, h]

lemma take_of_startsWord {c : Char} (h : startsWord c = true) (rest : List Char) :
    take c rest =
      (⟨.word, c :: rest.takeWhile continuesWord⟩, rest.dropWhile continuesWord) := by
  have hc := le_toNat_of_startsWord h
  have hquote : c ≠ '"' := by rintro rfl; simp at hc
  have hslash : c ≠ '/' := by rintro rfl; simp at hc
  have hsep : ¬ isSeparator c = true := fun hsep => by
    have := toNat_le_of_isSeparator hsep
    omega
  have hdigit : ¬ c.isDigit = true := fun hdigit => by
    have hle : c.toNat ≤ 57 := (Char.isDigit_iff_toNat.mp hdigit).2
    omega
  simp [take, hquote, hslash, hsep, hdigit, h]

/-- No symbol starts like a piece of another form, but for the slash. -/
lemma head_symbol {text : List Char} {kind : Token.Kind} (h : (text, kind) ∈ Token.Kind.symbols)
    {c : Char} (hc : text.head? = some c) :
    c ≠ '"' ∧ isSeparator c = false ∧ c.isDigit = false ∧ startsWord c = false ∧
      (c = '/' → text = ['/']) := by
  have hall : ∀ symbol ∈ Token.Kind.symbols, symbol.1.head?.all fun c =>
      c ≠ '"' ∧ isSeparator c = false ∧ c.isDigit = false ∧ startsWord c = false ∧
        (c = '/' → symbol.1 = ['/']) := by
    decide
  have hfirst := hall _ h
  simp only [hc, Option.all_some, decide_eq_true_eq] at hfirst
  exact hfirst

lemma symbol_ne_nil {symbol : List Char × Token.Kind} (h : symbol ∈ Token.Kind.symbols) :
    symbol.1 ≠ [] := by
  have hall : ∀ symbol ∈ Token.Kind.symbols, symbol.1 ≠ [] := by decide
  exact hall symbol h

/-- What starts no other piece is a symbol, or stands for nothing. -/
lemma take_of_other {c : Char} {rest : List Char} (hquote : c ≠ '"')
    (hline : ¬ (c = '/' ∧ rest.head? = some '/')) (hblock : ¬ (c = '/' ∧ rest.head? = some '*'))
    (hsep : isSeparator c = false) (hdigit : c.isDigit = false) (hword : startsWord c = false) :
    take c rest = match symbol? (c :: rest) with
      | some (text, kind) => (⟨.symbol kind, text⟩, (c :: rest).drop text.length)
      | none => (⟨.stray, [c]⟩, rest) := by
  rw [take, if_neg hquote, if_neg hline, if_neg hblock, if_neg (by simp [hsep]),
    if_neg (by simp [hdigit])]
  exact if_neg (by simp [hword])

/-! ## Symbols -/

/-- No symbol of the table is the beginning of a later one. -/
lemma symbols_pairwise :
    Token.Kind.symbols.Pairwise fun earlier later => ¬ earlier.1 <+: later.1 := by
  decide

/-- The table finds a symbol that a source starts with, or a longer one. -/
lemma symbol?_or_longer {text source : List Char} {kind : Token.Kind}
    (h : (text, kind) ∈ Token.Kind.symbols) (hpre : text <+: source) :
    ∃ found ∈ Token.Kind.symbols, symbol? source = some found ∧ found.1 <+: source ∧
      (found = (text, kind) ∨ text.length < found.1.length) := by
  cases hfind : symbol? source with
  | none =>
      have hnot := List.find?_eq_none.mp hfind _ h
      simp [hpre] at hnot
  | some found =>
      obtain ⟨hfits, before, after, hsplit, hbefore⟩ := List.find?_eq_some_iff_append.mp hfind
      have hfound : found.1 <+: source := by simpa using hfits
      have hmem : found ∈ Token.Kind.symbols := by simp [hsplit]
      refine ⟨found, hmem, rfl, hfound, ?_⟩
      rw [hsplit, List.mem_append, List.mem_cons] at h
      rcases h with h | h | h
      · have hnot := hbefore _ h
        simp only [Bool.not_eq_true', ← Bool.not_eq_true, List.isPrefixOf_iff_prefix] at hnot
        exact absurd hpre hnot
      · exact Or.inl h.symm
      · right
        have hpair := symbols_pairwise
        rw [hsplit, List.pairwise_append, List.pairwise_cons] at hpair
        have hnot := hpair.2.1.1 _ h
        rcases List.prefix_or_prefix_of_prefix hpre hfound with hle | hle
        · refine Nat.lt_of_le_of_ne hle.length_le fun hlen => ?_
          exact hnot (hle.eq_of_length hlen ▸ List.prefix_refl _)
        · exact absurd hle hnot

/-! ## Comments -/

lemma close_prefix_cons {c : Char} {rest : List Char} :
    ['*', '/'] <+: c :: rest ↔ c = '*' ∧ rest.head? = some '/' := by
  cases rest with
  | nil => simp
  | cons d rest => simp [eq_comm]

/-- A comment without an end is one in which no `*/` occurs. -/
lemma splitAtClose_eq_none {before text : List Char} :
    splitAtClose before text = none ↔ ¬ ['*', '/'] <:+: text := by
  induction text generalizing before with
  | nil => simp [splitAtClose]
  | cons c rest ih =>
      rw [splitAtClose, List.infix_cons_iff, close_prefix_cons]
      split
      · rename_i hclose
        simp [hclose]
      · rename_i hclose
        simp [ih, hclose]

/-- A comment ends with the first `*/` behind its opening. -/
lemma splitAtClose_eq_some {body after : List Char} (h : ¬ ['*', '/'] <:+: body ++ ['*'])
    (before : List Char) :
    splitAtClose before (body ++ '*' :: '/' :: after) =
      some (before.reverse ++ (body ++ ['*', '/']), after) := by
  induction body generalizing before with
  | nil => simp [splitAtClose]
  | cons c rest ih =>
      rw [List.cons_append, List.infix_cons_iff, not_or, close_prefix_cons] at h
      have hclose : ¬ (c = '*' ∧ (rest ++ '*' :: '/' :: after).head? = some '/') := by
        cases rest with
        | nil => simp
        | cons d rest => simpa using h.1
      rw [List.cons_append, splitAtClose, if_neg hclose, ih h.2]
      simp

/-- Conversely, what is split off ends with the first `*/`. -/
lemma exists_of_splitAtClose {before text body after : List Char}
    (h : splitAtClose before text = some (body, after)) :
    ∃ inner, body = before.reverse ++ (inner ++ ['*', '/']) ∧
      ¬ ['*', '/'] <:+: inner ++ ['*'] := by
  induction text generalizing before with
  | nil => simp [splitAtClose] at h
  | cons c rest ih =>
      rw [splitAtClose] at h
      split at h
      · refine ⟨[], ?_, by decide⟩
        simp only [Option.some.injEq, Prod.mk.injEq] at h
        simp [← h.1]
      · rename_i hclose
        obtain ⟨inner, rfl, hinner⟩ := ih h
        obtain rfl : rest = inner ++ ['*', '/'] ++ after := by
          simpa using (splitAtClose_append h).symm
        refine ⟨c :: inner, by simp, ?_⟩
        rw [List.cons_append, List.infix_cons_iff, close_prefix_cons, not_or]
        refine ⟨?_, hinner⟩
        cases inner with
        | nil => simp
        | cons d inner => simpa using hclose

/-! ## The longest match -/

/-- Whether a piece of a form may be part of a longer one when a character follows it. -/
def Form.mayGrow : Form → Char → Bool
  | .symbol _, c => c == '=' || c == '/' || c == '*'
  | .number, c => c.isDigit || c == '.'
  | .word, c => continuesWord c
  | .lineComment, c => c != '\n'
  | _, _ => false

/-- What is cut off is the given piece, or a longer one to which the next character belongs. -/
def CutsAtLeast (cut : Segment × List Char) (piece : Segment) (rest : List Char) : Prop :=
  cut = (piece, rest) ∨
    piece.text.length < cut.1.text.length ∧ ∃ c ∈ rest.head?, piece.form.mayGrow c = true

/-- A run of characters of a class at the start of a text is all that is taken from it, or the next
character is of the class too. -/
lemma takeWhile_or_longer {holds : Char → Bool} {run : List Char}
    (h : ∀ c ∈ run, holds c = true) (rest : List Char) :
    ((run ++ rest).takeWhile holds = run ∧ (run ++ rest).dropWhile holds = rest) ∨
      run.length < ((run ++ rest).takeWhile holds).length ∧ ∃ c ∈ rest.head?, holds c = true := by
  rw [List.takeWhile_append_of_pos h, List.dropWhile_append_of_pos h]
  cases rest with
  | nil => simp
  | cons c rest =>
      by_cases hc : holds c = true
      · right
        simp [hc]
      · left
        simp [hc]

lemma forall_bne_of_not_mem {d : Char} {body : List Char} (h : d ∉ body) :
    ∀ c ∈ body, (c != d) = true := by
  intro c hc
  rw [bne_iff_ne]
  rintro rfl
  exact h hc

lemma isDigit_head {digits rest tail : List Char} {c : Char} (hne : digits ≠ [])
    (hd : ∀ c ∈ digits, c.isDigit = true) (hs : digits ++ rest = c :: tail) : c.isDigit = true := by
  obtain ⟨first, digits, rfl⟩ := List.exists_cons_of_ne_nil hne
  obtain ⟨rfl, -⟩ := List.cons.inj hs
  exact hd first (by simp)

/-- A symbol that is the beginning of another is so by an equals sign. -/
lemma eq_append_of_prefix {symbol longer : List Char × Token.Kind}
    (h : symbol ∈ Token.Kind.symbols) (h' : longer ∈ Token.Kind.symbols)
    (hpre : symbol.1 <+: longer.1) (hlen : symbol.1.length < longer.1.length) :
    longer.1 = symbol.1 ++ ['='] := by
  have hall : ∀ symbol ∈ Token.Kind.symbols, ∀ longer ∈ Token.Kind.symbols,
      symbol.1 <+: longer.1 → symbol.1.length < longer.1.length →
        longer.1 = symbol.1 ++ ['='] := by
    decide
  exact hall symbol h longer h' hpre hlen

lemma cutsAtLeast_symbol {text rest : List Char} {kind : Token.Kind}
    (h : (text, kind) ∈ Token.Kind.symbols) {c : Char} {tail : List Char}
    (hs : text ++ rest = c :: tail) :
    CutsAtLeast (take c tail) ⟨.symbol kind, text⟩ rest := by
  have hne : text ≠ [] := symbol_ne_nil h
  have hhead : text.head? = some c := by
    rw [← List.head?_append_of_ne_nil text hne, hs, List.head?_cons]
  obtain ⟨hquote, hsep, hdigit, hword, hslash⟩ := head_symbol h hhead
  by_cases hline : c = '/' ∧ tail.head? = some '/'
  · obtain ⟨rfl, hnext⟩ := hline
    obtain ⟨tail, rfl⟩ := List.head?_eq_some_iff.mp hnext
    obtain rfl := hslash rfl
    obtain rfl : rest = '/' :: tail := by simpa using hs
    right
    simp [take_slash_slash, takeLineComment, Form.mayGrow]
  by_cases hblock : c = '/' ∧ tail.head? = some '*'
  · obtain ⟨rfl, hnext⟩ := hblock
    obtain ⟨tail, rfl⟩ := List.head?_eq_some_iff.mp hnext
    obtain rfl := hslash rfl
    obtain rfl : rest = '*' :: tail := by simpa using hs
    right
    refine ⟨?_, '*', rfl, rfl⟩
    rw [take_slash_star, takeBlockComment]
    split <;> simp
  rw [take_of_other hquote hline hblock hsep hdigit hword]
  obtain ⟨found, hmem, hfound, hpre, hfits⟩ :=
    symbol?_or_longer h (hs ▸ List.prefix_append text rest)
  rw [hfound]
  rcases hfits with rfl | hlong
  · left
    simp [← hs]
  · have htext : text <+: found.1 :=
      List.prefix_of_prefix_length_le (hs ▸ List.prefix_append text rest) hpre hlong.le
    have hequals : found.1 = text ++ ['='] := eq_append_of_prefix h hmem htext hlong
    rw [hequals, ← hs, List.prefix_append_right_inj] at hpre
    obtain ⟨more, rfl⟩ := hpre
    exact Or.inr ⟨hlong, '=', rfl, rfl⟩

lemma cutsAtLeast_string {body : List Char} (h : '"' ∉ body) (rest : List Char) :
    CutsAtLeast (take '"' (body ++ '"' :: rest)) ⟨.string, '"' :: (body ++ ['"'])⟩ rest := by
  have hbody := forall_bne_of_not_mem h
  left
  rw [take_quote, takeString, List.dropWhile_append_of_pos hbody,
    List.takeWhile_append_of_pos hbody]
  simp

lemma cutsAtLeast_openString {body : List Char} (h : '"' ∉ body) :
    CutsAtLeast (take '"' body) ⟨.openString, '"' :: body⟩ [] := by
  left
  rw [take_quote, takeString, List.dropWhile_eq_nil_iff.mpr (forall_bne_of_not_mem h)]

lemma cutsAtLeast_whole {digits rest : List Char} (hne : digits ≠ [])
    (hd : ∀ c ∈ digits, c.isDigit = true) {c : Char} {tail : List Char}
    (hs : digits ++ rest = c :: tail) : CutsAtLeast (take c tail) ⟨.number, digits⟩ rest := by
  rw [take_of_isDigit (isDigit_head hne hd hs), ← hs]
  simp only [CutsAtLeast, takeNumber]
  rcases takeWhile_or_longer hd rest with ⟨hwhole, hafter⟩ | ⟨hlong, d, hnext, hd⟩
  · rw [hwhole, hafter]
    split
    · rename_i hpoint
      exact Or.inr ⟨by simp, '.', hpoint.1, rfl⟩
    · exact Or.inl rfl
  · refine Or.inr ⟨?_, d, hnext, by simp [Form.mayGrow, hd]⟩
    split
    · simp only [List.length_append]
      omega
    · exact hlong

lemma cutsAtLeast_decimal {digits fraction rest : List Char} (hne : digits ≠ [])
    (hd : ∀ c ∈ digits, c.isDigit = true) (hne' : fraction ≠ [])
    (hd' : ∀ c ∈ fraction, c.isDigit = true) {c : Char} {tail : List Char}
    (hs : digits ++ '.' :: fraction ++ rest = c :: tail) :
    CutsAtLeast (take c tail) ⟨.number, digits ++ '.' :: fraction⟩ rest := by
  rw [List.append_assoc] at hs
  have hpoint : '.'.isDigit = false := by decide
  have hwhole : (c :: tail).takeWhile Char.isDigit = digits := by
    rw [← hs, List.takeWhile_append_of_pos hd]
    simp [hpoint]
  have hafter : (c :: tail).dropWhile Char.isDigit = '.' :: (fraction ++ rest) := by
    rw [← hs, List.dropWhile_append_of_pos hd]
    simp [hpoint]
  have hfraction : (fraction ++ rest).takeWhile Char.isDigit ≠ [] := by
    rw [List.takeWhile_append_of_pos hd']
    simp [hne']
  rw [take_of_isDigit (isDigit_head hne hd hs)]
  simp only [CutsAtLeast, takeNumber, hwhole, hafter, List.head?_cons, List.drop_succ_cons,
    List.drop_zero, true_and, if_pos hfraction]
  rcases takeWhile_or_longer hd' rest with ⟨hfrac, hrest⟩ | ⟨hlong, d, hnext, hd⟩
  · rw [hfrac, hrest]
    exact Or.inl rfl
  · refine Or.inr ⟨?_, d, hnext, by simp [Form.mayGrow, hd]⟩
    simp only [List.length_append, List.length_cons]
    omega

lemma cutsAtLeast_word {c : Char} {run : List Char} (hc : startsWord c = true)
    (hr : ∀ d ∈ run, continuesWord d = true) (rest : List Char) :
    CutsAtLeast (take c (run ++ rest)) ⟨.word, c :: run⟩ rest := by
  rw [take_of_startsWord hc]
  rcases takeWhile_or_longer hr rest with ⟨hrun, hrest⟩ | ⟨hlong, hnext⟩
  · rw [hrun, hrest]
    exact Or.inl rfl
  · exact Or.inr ⟨by simpa using hlong, hnext⟩

lemma cutsAtLeast_lineComment {body : List Char} (h : '\n' ∉ body) (rest : List Char) :
    CutsAtLeast (take '/' ('/' :: body ++ rest)) ⟨.lineComment, '/' :: '/' :: body⟩ rest := by
  have hbody : ∀ c ∈ '/' :: '/' :: body, (c != '\n') = true := by
    rw [List.forall_mem_cons, List.forall_mem_cons]
    exact ⟨by decide, by decide, forall_bne_of_not_mem h⟩
  rw [List.cons_append, take_slash_slash, takeLineComment]
  rcases takeWhile_or_longer hbody rest with ⟨hrun, hrest⟩ | hlong
  · simp only [List.cons_append] at hrun hrest
    rw [hrun, hrest]
    exact Or.inl rfl
  · exact Or.inr hlong

lemma cutsAtLeast_blockComment {body : List Char} (h : ¬ ['*', '/'] <:+: body ++ ['*'])
    (rest : List Char) :
    CutsAtLeast (take '/' ('*' :: (body ++ ['*', '/']) ++ rest))
      ⟨.blockComment, '/' :: '*' :: (body ++ ['*', '/'])⟩ rest := by
  left
  have hbody : body ++ ['*', '/'] ++ rest = body ++ '*' :: '/' :: rest := by simp
  rw [List.cons_append, take_slash_star, takeBlockComment, hbody, splitAtClose_eq_some h []]
  simp

lemma cutsAtLeast_openComment {body : List Char} (h : ¬ ['*', '/'] <:+: body) :
    CutsAtLeast (take '/' ('*' :: body)) ⟨.openComment, '/' :: '*' :: body⟩ [] := by
  left
  rw [take_slash_star, takeBlockComment, splitAtClose_eq_none.mpr h]

lemma cutsAtLeast_stray {c : Char} (h : IsOther c) (rest : List Char) :
    CutsAtLeast (take c rest) ⟨.stray, [c]⟩ rest := by
  obtain ⟨hquote, hsep, hdigit, hword, hsymbol⟩ := h
  have hslash : c ≠ '/' := by
    rintro rfl
    exact hsymbol (['/'], .slash) (by decide) rfl
  have hnone : symbol? (c :: rest) = none := by
    refine List.find?_eq_none.mpr fun symbol hmem hpre => ?_
    obtain ⟨more, hmore⟩ := List.isPrefixOf_iff_prefix.mp hpre
    refine hsymbol symbol hmem ?_
    rw [← List.head?_append_of_ne_nil symbol.1 (symbol_ne_nil hmem), hmore, List.head?_cons]
  left
  rw [take_of_other hquote (fun h => hslash h.1) (fun h => hslash h.1) hsep hdigit hword, hnone]

/-- Any piece that a source could start with is the one that is cut off, or is shorter. -/
lemma Fits.cutsAtLeast {piece : Segment} {rest : List Char} (h : piece.Fits rest) {c : Char}
    {tail : List Char} (hs : piece.text ++ rest = c :: tail) :
    CutsAtLeast (take c tail) piece rest := by
  obtain ⟨form, text⟩ := piece
  obtain ⟨hlex, hlast⟩ := h
  simp only at hlex hlast hs
  cases hlex with
  | symbol hmem => exact cutsAtLeast_symbol hmem hs
  | whole hne hd => exact cutsAtLeast_whole hne hd hs
  | decimal hne hd hne' hd' => exact cutsAtLeast_decimal hne hd hne' hd' hs
  | string hbody =>
      obtain ⟨rfl, rfl⟩ := List.cons.inj hs
      simpa using cutsAtLeast_string hbody rest
  | word hc hr =>
      obtain ⟨rfl, rfl⟩ := List.cons.inj hs
      exact cutsAtLeast_word hc hr rest
  | blank hsep =>
      obtain ⟨rfl, rfl⟩ := List.cons.inj hs
      exact Or.inl (take_of_isSeparator hsep rest)
  | lineComment hbody =>
      obtain ⟨rfl, rfl⟩ := List.cons.inj hs
      exact cutsAtLeast_lineComment hbody rest
  | blockComment hbody =>
      obtain ⟨rfl, rfl⟩ := List.cons.inj hs
      exact cutsAtLeast_blockComment hbody rest
  | stray hother =>
      obtain ⟨rfl, rfl⟩ := List.cons.inj hs
      exact cutsAtLeast_stray hother rest
  | openString hbody =>
      obtain rfl := hlast rfl
      obtain ⟨rfl, rfl⟩ := List.cons.inj hs
      simpa using cutsAtLeast_openString hbody
  | openComment hbody =>
      obtain rfl := hlast rfl
      obtain ⟨rfl, rfl⟩ := List.cons.inj hs
      simpa using cutsAtLeast_openComment hbody

/-- A piece is cut off whole before a character that it cannot grow by. -/
lemma Fits.take_eq {piece : Segment} {rest : List Char} (h : piece.Fits rest)
    (hrest : ∀ c ∈ rest.head?, piece.form.mayGrow c = false) {c : Char} {tail : List Char}
    (hs : piece.text ++ rest = c :: tail) : take c tail = (piece, rest) := by
  rcases h.cutsAtLeast hs with heq | ⟨-, d, hd, hgrow⟩
  · exact heq
  · rw [hrest d hd] at hgrow
    exact Bool.noConfusion hgrow

/-! ## What is cut off has its form -/

lemma fits_takeString (rest : List Char) :
    (takeString rest).1.Fits (takeString rest).2 := by
  unfold takeString
  split
  · rename_i hnone
    have hquote : '"' ∉ rest := fun hmem => by
      have := List.dropWhile_eq_nil_iff.mp hnone _ hmem
      simp at this
    exact ⟨.openString hquote, fun _ => rfl⟩
  · have hquote : '"' ∉ rest.takeWhile (· != '"') := fun hmem => by
      have := List.mem_takeWhile_imp hmem
      simp at this
    exact Lexeme.fits (.string hquote) rfl _

lemma fits_takeNumber {c : Char} (hc : c.isDigit = true) (rest : List Char) :
    (takeNumber (c :: rest)).1.Fits (takeNumber (c :: rest)).2 := by
  have hdigits : ∀ text : List Char, ∀ d ∈ text.takeWhile Char.isDigit, d.isDigit = true :=
    fun _ _ hd => List.mem_takeWhile_imp hd
  have hne : (c :: rest).takeWhile Char.isDigit ≠ [] := by simp [hc]
  simp only [takeNumber]
  split
  · rename_i hpoint
    exact Lexeme.fits (.decimal hne (hdigits _) hpoint.2 (hdigits _)) rfl _
  · exact Lexeme.fits (.whole hne (hdigits _)) rfl _

lemma fits_takeBlockComment (rest : List Char) :
    (takeBlockComment rest).1.Fits (takeBlockComment rest).2 := by
  unfold takeBlockComment
  split
  · rename_i body after hsplit
    obtain ⟨inner, rfl, hinner⟩ := exists_of_splitAtClose hsplit
    exact Lexeme.fits (.blockComment hinner) rfl _
  · rename_i hnone
    exact ⟨.openComment (splitAtClose_eq_none.mp hnone), fun _ => rfl⟩

/-- What is cut off has its form, and takes all if it is open. -/
lemma fits_take (c : Char) (rest : List Char) : (take c rest).1.Fits (take c rest).2 := by
  unfold take
  split
  · exact fits_takeString rest
  rename_i hquote
  split
  · rename_i hline
    obtain ⟨tail, rfl⟩ := List.head?_eq_some_iff.mp hline.2
    have hbody : '\n' ∉ tail.takeWhile (· != '\n') := fun hmem => by
      have := List.mem_takeWhile_imp hmem
      simp at this
    have htext : (c :: '/' :: tail).takeWhile (· != '\n') =
        '/' :: '/' :: tail.takeWhile (· != '\n') := by simp [hline.1]
    rw [takeLineComment, htext]
    exact Lexeme.fits (.lineComment hbody) rfl _
  rename_i hline
  split
  · exact fits_takeBlockComment rest.tail
  rename_i hblock
  split
  · rename_i hsep
    exact Lexeme.fits (.blank hsep) rfl _
  rename_i hsep
  split
  · rename_i hdigit
    exact fits_takeNumber hdigit rest
  rename_i hdigit
  split
  · rename_i hword
    exact Lexeme.fits (.word hword fun _ hd => List.mem_takeWhile_imp hd) rfl _
  rename_i hword
  split
  · rename_i text kind hfind
    exact Lexeme.fits (.symbol (List.mem_of_find?_eq_some hfind)) rfl _
  · rename_i hnone
    refine Lexeme.fits (.stray ⟨hquote, by simpa using hsep, by simpa using hdigit,
      by simpa using hword, ?_⟩) rfl _
    intro symbol hmem hhead
    -- every character that starts a symbol is a symbol by itself, which would have been found
    have hall : ∀ symbol ∈ Token.Kind.symbols, symbol.1.head?.all fun c =>
        ∃ single ∈ Token.Kind.symbols, single.1 = [c] := by decide
    have hfirst := hall symbol hmem
    simp only [hhead, Option.all_some, decide_eq_true_eq] at hfirst
    obtain ⟨single, hsingle, htext⟩ := hfirst
    have hnot := List.find?_eq_none.mp hnone single hsingle
    simp [htext] at hnot

/-- **What is cut off is the longest match**, and the only one: a piece is the longest at the start
of a source exactly if it is the one that is cut off. -/
theorem longest_iff_take {piece : Segment} {rest tail : List Char} {c : Char}
    (hs : piece.text ++ rest = c :: tail) : piece.Longest rest ↔ take c tail = (piece, rest) := by
  constructor
  · rintro ⟨hfits, hlongest⟩
    rcases hfits.cutsAtLeast hs with heq | hlong
    · exact heq
    · have hle := hlongest _ _ ((take_append c tail).trans hs.symm) (fits_take c tail)
      omega
  · intro heq
    have hfits := fits_take c tail
    rw [heq] at hfits
    refine ⟨hfits, fun other rest' hother hfits' => ?_⟩
    rcases hfits'.cutsAtLeast (hother.trans hs) with heq' | hlong
    · rw [heq] at heq'
      rw [← (Prod.mk.inj heq').1]
    · rw [heq] at hlong
      exact hlong.1.le

/-! ## What pieces yield -/

/-- Whether a piece of a form is a token. -/
def Form.isToken : Form → Bool
  | .symbol _ | .string | .number | .word => true
  | _ => false

/-- Whether a piece of a form is a fault of the source. -/
def Form.isFault : Form → Bool
  | .stray | .openString | .openComment => true
  | _ => false

/-- The token that a piece is, on whatever line: its text is the whole piece, a string says what is
between its quotes, a number is the double nearest to the decimal it is written as, and a word is
a keyword if it is spelled like one. -/
inductive Denotes : Segment → Token → Prop where
  | symbol {kind : Token.Kind} {text : List Char} {line : Nat} :
      Denotes ⟨.symbol kind, text⟩ ⟨kind, String.ofList text, none, line⟩
  | string {body : List Char} {line : Nat} :
      Denotes ⟨.string, '"' :: (body ++ ['"'])⟩
        ⟨.string, String.ofList ('"' :: (body ++ ['"'])), some (.string (String.ofList body)), line⟩
  | whole {digits : List Char} {line : Nat} (hd : ∀ c ∈ digits, c.isDigit = true) :
      Denotes ⟨.number, digits⟩ ⟨.number, String.ofList digits,
        some (.number (Number.Decimal.ofDigits digits []).toFloat), line⟩
  | decimal {digits fraction : List Char} {line : Nat} (hd : ∀ c ∈ digits, c.isDigit = true) :
      Denotes ⟨.number, digits ++ '.' :: fraction⟩
        ⟨.number, String.ofList (digits ++ '.' :: fraction),
          some (.number (Number.Decimal.ofDigits digits fraction).toFloat), line⟩
  | keyword {word : Keyword} {line : Nat} :
      Denotes ⟨.word, word.spelling.toList⟩ ⟨.keyword word, word.spelling, none, line⟩
  | identifier {text : List Char} {line : Nat}
      (h : ∀ word : Keyword, word.spelling.toList ≠ text) :
      Denotes ⟨.word, text⟩ ⟨.identifier, String.ofList text, none, line⟩

/-- The fault that a piece is. -/
inductive Blamed : Segment → Fault → Prop where
  | stray {c : Char} : Blamed ⟨.stray, [c]⟩ (.unexpectedCharacter (String.ofList [c]))
  | openString {text : List Char} : Blamed ⟨.openString, text⟩ .unterminatedString
  | openComment {text : List Char} : Blamed ⟨.openComment, text⟩ .unterminatedComment

lemma decimal_whole {digits : List Char} (hd : ∀ c ∈ digits, c.isDigit = true) :
    decimal digits = .ofDigits digits [] := by
  rw [decimal, List.takeWhile_eq_self_iff.mpr hd, List.dropWhile_eq_nil_iff.mpr hd, List.drop_nil]

lemma decimal_point {digits : List Char} (hd : ∀ c ∈ digits, c.isDigit = true)
    (fraction : List Char) :
    decimal (digits ++ '.' :: fraction) = .ofDigits digits fraction := by
  have hpoint : '.'.isDigit = false := by decide
  simp [decimal, List.takeWhile_append_of_pos hd, List.dropWhile_append_of_pos hd, hpoint]

/-- A word is a keyword, or is spelled like none. -/
lemma denotes_word (text : List Char) (line : Nat) :
    Denotes ⟨.word, text⟩ ⟨wordKind text, String.ofList text, none, line⟩ := by
  unfold wordKind
  split
  · rename_i word hfind
    have hspelling : word.spelling = String.ofList text := by
      simpa using List.find?_some hfind
    have htext : text = word.spelling.toList := by rw [hspelling, String.toList_ofList]
    rw [← hspelling, htext]
    exact .keyword
  · rename_i hnone
    refine .identifier fun word htext => ?_
    have hnot := List.find?_eq_none.mp hnone word (Keyword.mem_all word)
    simp [← htext] at hnot

/-- A piece with the form of a token is the token that it denotes, and any other is none. -/
lemma Lexeme.token? {form : Form} {text : List Char} (h : Lexeme form text) (line : Nat) :
    if form.isToken then ∃ token, (Located.mk ⟨form, text⟩ line).token? = some token ∧
      Denotes ⟨form, text⟩ token
    else (Located.mk ⟨form, text⟩ line).token? = none := by
  cases h with
  | symbol _ => exact ⟨_, rfl, .symbol⟩
  | @string body _ =>
      refine ⟨_, rfl, ?_⟩
      have hbody : unquoted ('"' :: (body ++ ['"'])) = body := by simp [unquoted]
      rw [hbody]
      exact .string
  | whole _ hd =>
      refine ⟨_, rfl, ?_⟩
      rw [decimal_whole hd]
      exact .whole hd
  | decimal _ hd _ _ =>
      refine ⟨_, rfl, ?_⟩
      rw [decimal_point hd]
      exact .decimal hd
  | word _ _ => exact ⟨_, rfl, denotes_word _ line⟩
  | _ => rfl

/-- A piece with the form of a fault is that fault, and any other is none. -/
lemma Lexeme.diagnostic? {form : Form} {text : List Char} (h : Lexeme form text) (line : Nat) :
    if form.isFault then ∃ d, (Located.mk ⟨form, text⟩ line).diagnostic? = some d ∧
      Blamed ⟨form, text⟩ d.fault
    else (Located.mk ⟨form, text⟩ line).diagnostic? = none := by
  cases h with
  | stray _ => exact ⟨_, rfl, .stray⟩
  | openString _ => exact ⟨_, rfl, .openString⟩
  | openComment _ => exact ⟨_, rfl, .openComment⟩
  | _ => rfl

end Segment

/-! ## Decompositions -/

/-- The pieces together are all of the source, and each is the longest at its start. -/
def Decomposes (source : List Char) (pieces : List Segment) : Prop :=
  pieces.flatMap Segment.text = source ∧
    ∀ before piece after, pieces = before ++ piece :: after →
      piece.text ≠ [] ∧ piece.Longest (after.flatMap Segment.text)

lemma Decomposes.tail {source : List Char} {piece : Segment} {pieces : List Segment}
    (h : Decomposes source (piece :: pieces)) :
    Decomposes (pieces.flatMap Segment.text) pieces := by
  refine ⟨rfl, fun before next after hsplit => ?_⟩
  exact h.2 (piece :: before) next after (by rw [hsplit, List.cons_append])

/-- Scanning cuts up a source. -/
lemma decomposes_segments (source : List Char) : Decomposes source (segments source) := by
  refine ⟨flatMap_text_segments source, ?_⟩
  induction h : source.length using Nat.strongRecOn generalizing source with
  | ind n ih =>
      intro before piece after hsplit
      cases source with
      | nil => simp at hsplit
      | cons c rest =>
          rw [segments_cons] at hsplit
          cases before with
          | nil =>
              obtain ⟨rfl, rfl⟩ := List.cons.inj hsplit
              refine ⟨Segment.take_text_ne_nil c rest, ?_⟩
              rw [flatMap_text_segments, Segment.longest_iff_take (Segment.take_append c rest)]
          | cons first before =>
              have hshort := Segment.length_take_lt c rest
              exact ih _ (h ▸ hshort) _ rfl before piece after (List.cons.inj hsplit).2

/-- There is no other way to cut up a source. -/
lemma Decomposes.eq_segments {source : List Char} {pieces : List Segment}
    (h : Decomposes source pieces) : pieces = segments source := by
  induction pieces generalizing source with
  | nil =>
      obtain ⟨rfl, -⟩ := h
      simp
  | cons piece pieces ih =>
      obtain ⟨hne, hlongest⟩ := h.2 [] piece pieces rfl
      have hsource : piece.text ++ pieces.flatMap Segment.text = source := h.1
      obtain ⟨c, tail, hcons⟩ : ∃ c tail, source = c :: tail :=
        List.exists_cons_of_ne_nil (by simp [← hsource, hne])
      have htake := (Segment.longest_iff_take (hsource.trans hcons)).mp hlongest
      rw [hcons, segments_cons, htake, ← ih h.tail]

lemma Segment.Lexeme.text_ne_nil {form : Segment.Form} {text : List Char}
    (h : Segment.Lexeme form text) : text ≠ [] := by
  cases h with
  | symbol hmem => exact Segment.symbol_ne_nil hmem
  | whole hne _ => exact hne
  | decimal hne _ _ _ => simp
  | _ => simp

/-- A piece before a character that it cannot grow by is one of the pieces of the source. -/
lemma segments_text_append {piece : Segment} {rest : List Char} (h : piece.Fits rest)
    (hrest : ∀ c ∈ rest.head?, piece.form.mayGrow c = false) :
    segments (piece.text ++ rest) = piece :: segments rest := by
  obtain ⟨c, tail, htext⟩ := List.exists_cons_of_ne_nil h.lexeme.text_ne_nil
  have hs : piece.text ++ rest = c :: (tail ++ rest) := by rw [htext, List.cons_append]
  rw [hs, segments_cons, h.take_eq hrest hs]

/-- What the entries of a kind yield, where every entry of that kind yields something and no other
does. -/
lemma forall₂_filter_filterMap {α β : Type} {keep : α → Bool} {yielded : α → Option β}
    {R : α → β → Prop} {l : List α} (h : ∀ a ∈ l, if keep a then
      ∃ b, yielded a = some b ∧ R a b else yielded a = none) :
    List.Forall₂ R (l.filter keep) (l.filterMap yielded) := by
  induction l with
  | nil => simp
  | cons a l ih =>
      rw [List.forall_mem_cons] at h
      obtain ⟨hfirst, hrest⟩ := h
      split at hfirst
      · rename_i hkeep
        obtain ⟨b, hb, hrel⟩ := hfirst
        simp only [List.filter_cons, hkeep, if_true, List.filterMap_cons_some hb]
        exact List.Forall₂.cons hrel (ih hrest)
      · rename_i hkeep
        simp only [List.filter_cons, hkeep, List.filterMap_cons_none hfirst]
        exact ih hrest

lemma map_segment_locate (line : Nat) (pieces : List Segment) :
    (locate line pieces).map Located.segment = pieces := by
  induction pieces generalizing line with
  | nil => rfl
  | cons piece pieces ih => rw [locate_cons, List.map_cons, ih]

/-- The same of pieces.  The line on which a piece ends does not matter. -/
lemma forall₂_locate {α : Type} {keep : Segment.Form → Bool} {yielded : Located → Option α}
    {R : Segment → α → Prop} {pieces : List Segment}
    (h : ∀ piece ∈ pieces, ∀ line, if keep piece.form then
      ∃ result, yielded ⟨piece, line⟩ = some result ∧ R piece result
      else yielded ⟨piece, line⟩ = none) (line : Nat) :
    List.Forall₂ R (pieces.filter (keep ·.form)) ((locate line pieces).filterMap yielded) := by
  have hpieces := map_segment_locate line pieces
  have hkeep : pieces.filter (keep ·.form) =
      ((locate line pieces).filter (keep ·.segment.form)).map Located.segment := by
    conv_lhs => rw [← hpieces, List.filter_map]
    rfl
  rw [hkeep, List.forall₂_map_left_iff]
  refine forall₂_filter_filterMap fun located hmem => ?_
  exact h located.segment (hpieces ▸ List.mem_map_of_mem hmem) located.line

lemma lexeme_of_mem_segments {source : List Char} {piece : Segment} (h : piece ∈ segments source) :
    Segment.Lexeme piece.form piece.text := by
  obtain ⟨before, after, hsplit⟩ := List.append_of_mem h
  exact ((decomposes_segments source).2 before piece after hsplit).2.1.lexeme

/-- **Scanning is the longest match lexer of the language and loses nothing.**  There is one and
only one way to cut up a source at the longest match.  Its pieces with the form of a token are the
tokens, in order and before the end of the input, and its pieces with the form of a fault are the
faults, in order. -/
theorem scan_decomposes (source : String) :
    ∃ pieces, Decomposes source.toList pieces ∧
      (∀ other, Decomposes source.toList other → other = pieces) ∧
      (∃ tokens, List.Forall₂ Segment.Denotes (pieces.filter (·.form.isToken)) tokens ∧
        (scan source).tokens = tokens ++ [Token.endAt (1 + Text.lineFeeds source.toList)]) ∧
      List.Forall₂ (fun piece d => Segment.Blamed piece d.fault)
        (pieces.filter (·.form.isFault)) (scan source).diagnostics := by
  have hlexeme : ∀ piece ∈ segments source.toList, Segment.Lexeme piece.form piece.text :=
    fun _ hmem => lexeme_of_mem_segments hmem
  refine ⟨segments source.toList, decomposes_segments _, fun other h => h.eq_segments,
    ⟨_, ?_, rfl⟩, ?_⟩
  · exact forall₂_locate (fun piece hmem line => (hlexeme piece hmem).token? line) 1
  · exact forall₂_locate (fun piece hmem line => (hlexeme piece hmem).diagnostic? line) 1

end Reckon
