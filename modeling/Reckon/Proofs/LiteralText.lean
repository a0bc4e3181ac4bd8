import Reckon.Proofs.Written

/-!
# The text of a literal can be read in one way

A literal in the text of an expression can be told from what is behind it, and is then known but for
numbers that are written alike.

**Parts.**  A part of a text ends where a character stands that it cannot hold
(`append_inj_of_ends`).

**Quoted text.**  A string may hold any character, but what is written for a character can be told
from what is behind it, and never starts with a quote (`Text.quoted_append_inj`).

**Bare texts.**  Numbers, truth values and nil are written without blanks, parentheses and quotes,
so that they end at the next blank or closing parenthesis.  Each of the words has a letter that no
number is written with.
-/

namespace Reckon

/-! ## Parts -/

/-- Two parts without a character that ends them, each with something behind it that does, are equal
if all of it is. -/
lemma append_inj_of_ends {ends : Char → Prop} {a b r r' : List Char} (ha : ∀ c ∈ a, ¬ ends c)
    (hb : ∀ c ∈ b, ¬ ends c) (hr : ∀ c ∈ r.head?, ends c) (hr' : ∀ c ∈ r'.head?, ends c)
    (h : a ++ r = b ++ r') : a = b ∧ r = r' := by
  induction a generalizing b with
  | nil =>
      cases b with
      | nil => exact ⟨rfl, h⟩
      | cons d b =>
          have hd : ends d := hr d (by simp only [List.nil_append] at h; simp [h])
          exact absurd hd (hb d List.mem_cons_self)
  | cons c a ih =>
      cases b with
      | nil =>
          have hc : ends c := hr' c (by simp only [List.nil_append] at h; simp [← h])
          exact absurd hc (ha c List.mem_cons_self)
      | cons d b =>
          obtain ⟨rfl, htail⟩ := List.cons.inj h
          obtain ⟨rfl, rfl⟩ :=
            ih (List.forall_mem_cons.mp ha).2 (List.forall_mem_cons.mp hb).2 htail
          exact ⟨rfl, rfl⟩

/-! ## Quoted text -/

namespace Text

/-- The digits of a number in hexadecimal are digits. -/
lemma exists_digitChar {n : Nat} {c : Char} (h : c ∈ Nat.toDigits 16 n) :
    ∃ d < 16, c = Nat.digitChar d := by
  induction n using Nat.strongRecOn with
  | ind n ih =>
      rw [Nat.toDigits_eq_if (by decide)] at h
      split at h
      · rename_i hlt
        exact ⟨n, hlt, by simpa using h⟩
      · rename_i hle
        rcases List.mem_append.mp h with h | h
        · exact ih (n / 16) (by omega) h
        · exact ⟨n % 16, Nat.mod_lt n (by decide), by simpa using h⟩

lemma digitChar_inj {d d' : Nat} (hd : d < 16) (hd' : d' < 16)
    (h : Nat.digitChar d = Nat.digitChar d') : d = d' := by
  have hall : ∀ i j : Fin 16, Nat.digitChar i = Nat.digitChar j → i = j := by decide
  exact congrArg Fin.val (hall ⟨d, hd⟩ ⟨d', hd'⟩ h)

/-- A number is known by its digits in hexadecimal. -/
lemma toDigits_inj {m n : Nat} (h : Nat.toDigits 16 m = Nat.toDigits 16 n) : m = n := by
  induction m using Nat.strongRecOn generalizing n with
  | ind m ih =>
      have hne : ∀ k, Nat.toDigits 16 k ≠ [] := fun _ => Nat.toDigits_ne_nil
      rw [Nat.toDigits_eq_if (n := m) (by decide), Nat.toDigits_eq_if (n := n) (by decide)] at h
      split at h <;> split at h
      · rename_i hm hn
        exact digitChar_inj hm hn (by simpa using h)
      · exact absurd h (by simp [List.cons_eq_append_iff, hne])
      · exact absurd h (by simp [List.append_eq_cons_iff, hne])
      · rename_i hm hn
        obtain ⟨hhigh, hlow⟩ := List.append_inj' h rfl
        have hdiv : m / 16 = n / 16 := ih (m / 16) (by omega) hhigh
        have hmod : m % 16 = n % 16 :=
          digitChar_inj (Nat.mod_lt m (by decide)) (Nat.mod_lt n (by decide)) (by simpa using hlow)
        omega

lemma escapedCode_append (c : Char) (x : List Char) :
    escapedCode c ++ x = '\\' :: 'u' :: '\x7b' :: (Nat.toDigits 16 c.toNat ++ '\x7d' :: x) := by
  simp [escapedCode]

/-- A code ends at its closing brace, which is no digit. -/
lemma escapedCode_append_inj {c d : Char} {x y : List Char}
    (h : escapedCode c ++ x = escapedCode d ++ y) : c = d ∧ x = y := by
  have hbrace : ∀ n, ∀ digit ∈ Nat.toDigits 16 n, ¬ digit = '\x7d' := by
    have hall : ∀ i : Fin 16, ¬ Nat.digitChar i = '\x7d' := by decide
    intro n digit hdigit
    obtain ⟨i, hi, rfl⟩ := exists_digitChar hdigit
    exact hall ⟨i, hi⟩
  have hcodes :
      Nat.toDigits 16 c.toNat ++ '\x7d' :: x = Nat.toDigits 16 d.toNat ++ '\x7d' :: y := by
    simpa [escapedCode_append] using h
  obtain ⟨hdigits, hrest⟩ :=
    append_inj_of_ends (hbrace c.toNat) (hbrace d.toNat) (by simp) (by simp) hcodes
  exact ⟨Char.toNat_inj.mp (toDigits_inj hdigits), (List.cons.inj hrest).2⟩

/-- The characters that have a letter of their own, with the letter. -/
def letters : List (Char × Char) :=
  [('"', '"'), ('\\', '\\'), ('\n', 'n'), ('\r', 'r'), ('\t', 't'), ('\x00', '0')]

/-- The ways of writing a character inside quotes. -/
inductive Escapes (c : Char) : List Char → Prop where
  | letter {l : Char} (h : (c, l) ∈ letters) : Escapes c ['\\', l]
  | code : Escapes c (escapedCode c)
  | itself (hquote : c ≠ '"') (hbackslash : c ≠ '\\') : Escapes c [c]

lemma escapes_escaped (c : Char) : Escapes c (escaped c) := by
  unfold escaped
  split
  iterate 6 exact .letter (by decide)
  rename_i hquote hbackslash _ _ _ _
  split
  · exact .code
  · exact .itself hquote hbackslash

/-- A closing quote is never taken for a character between the quotes. -/
lemma Escapes.ne_quote {c : Char} {a x y : List Char} (h : Escapes c a) : a ++ x ≠ '"' :: y := by
  cases h with
  | letter hl => simp
  | code => simp [escapedCode_append]
  | itself hquote _ => simp [hquote]

/-- What is written for a character can be told from what is behind it. -/
lemma Escapes.append_inj {c d : Char} {a b x y : List Char} (ha : Escapes c a) (hb : Escapes d b)
    (h : a ++ x = b ++ y) : c = d ∧ x = y := by
  have hletters : ∀ p ∈ letters, p.2 ≠ 'u' ∧ ∀ q ∈ letters, p.2 = q.2 → p.1 = q.1 := by decide
  cases ha with
  | @letter l hl =>
      cases hb with
      | @letter l' hl' =>
          obtain ⟨rfl, rfl⟩ : l = l' ∧ x = y := by simpa using h
          exact ⟨(hletters _ hl).2 _ hl' rfl, rfl⟩
      | code =>
          rw [escapedCode_append] at h
          exact absurd (List.cons.inj (List.cons.inj h).2).1 (hletters _ hl).1
      | itself _ hbackslash => simp [Ne.symm hbackslash] at h
  | code =>
      cases hb with
      | @letter l' hl' =>
          rw [escapedCode_append] at h
          exact absurd (List.cons.inj (List.cons.inj h).2).1.symm (hletters _ hl').1
      | code => exact escapedCode_append_inj h
      | itself _ hbackslash => simp [escapedCode_append, Ne.symm hbackslash] at h
  | itself _ hbackslash =>
      cases hb with
      | letter hl' => simp [hbackslash] at h
      | code => simp [escapedCode_append, hbackslash] at h
      | itself _ _ => simpa using h

/-- A text between quotes can be told from what is behind it. -/
lemma quoted_append_inj {s s' r r' : List Char} (h : quoted s ++ r = quoted s' ++ r') :
    s = s' ∧ r = r' := by
  have hbodies : s.flatMap escaped ++ '"' :: r = s'.flatMap escaped ++ '"' :: r' := by
    simpa [quoted] using h
  clear h
  induction s generalizing s' with
  | nil =>
      cases s' with
      | nil => exact ⟨rfl, (List.cons.inj hbodies).2⟩
      | cons d s' =>
          rw [List.flatMap_cons, List.append_assoc] at hbodies
          exact absurd hbodies.symm (escapes_escaped d).ne_quote
  | cons c s ih =>
      rw [List.flatMap_cons, List.append_assoc] at hbodies
      cases s' with
      | nil => exact absurd hbodies (escapes_escaped c).ne_quote
      | cons d s' =>
          rw [List.flatMap_cons, List.append_assoc] at hbodies
          obtain ⟨rfl, hrest⟩ := (escapes_escaped c).append_inj (escapes_escaped d) hbodies
          obtain ⟨rfl, rfl⟩ := ih hrest
          exact ⟨rfl, rfl⟩

end Text

/-! ## Numbers -/

namespace Number

/-- Whether a number may be written with a character. -/
def isMark (c : Char) : Bool :=
  c.isDigit || ['.', 'e', '-', 'i', 'n', 'f', 'N', 'a'].contains c

lemma isMark_of_mem_toDigits {n : Nat} {c : Char} (h : c ∈ Nat.toDigits 10 n) :
    isMark c = true := by
  rw [isMark, Nat.isDigit_of_mem_toDigits (by decide) (by decide) h, Bool.true_or]

lemma Decimal.isMark_of_mem_plainText {d : Decimal} {c : Char} (h : c ∈ d.plainText) :
    isMark c = true := by
  unfold plainText at h
  split at h
  · rcases List.mem_append.mp h with h | h
    · exact isMark_of_mem_toDigits h
    · rcases List.mem_pair.mp h with rfl | rfl <;> rfl
  · rcases List.mem_append.mp h with h | h
    · exact isMark_of_mem_toDigits h
    · rcases List.mem_cons.mp h with rfl | h
      · rfl
      · rcases List.mem_append.mp h with h | h
        · obtain rfl := List.eq_of_mem_replicate h
          rfl
        · exact isMark_of_mem_toDigits h

lemma Decimal.isMark_of_mem_integerText {n : Int} {c : Char} (h : c ∈ integerText n) :
    isMark c = true := by
  unfold integerText at h
  split at h
  · exact isMark_of_mem_toDigits h
  · rcases List.mem_cons.mp h with rfl | h
    · rfl
    · exact isMark_of_mem_toDigits h

lemma Decimal.isMark_of_mem_scientificText {d : Decimal} {c : Char} (h : c ∈ d.scientificText) :
    isMark c = true := by
  unfold scientificText at h
  split at h
  · cases h
  · rename_i first rest hnumeral
    have hdigits : ∀ digit ∈ first :: rest, isMark digit = true := by
      rw [← hnumeral]
      exact fun digit => isMark_of_mem_toDigits
    obtain ⟨hfirst, hrest⟩ := List.forall_mem_cons.mp hdigits
    simp only [List.cons_append, List.mem_cons, List.mem_append] at h
    rcases h with rfl | h | rfl | h
    · exact hfirst
    · split at h
      · cases h
      · rcases List.mem_cons.mp h with rfl | h
        · rfl
        · exact hrest c h
    · rfl
    · exact isMark_of_mem_integerText h

lemma isMark_of_mem_magnitudeText {x : Float} {c : Char} (h : c ∈ magnitudeText x) :
    isMark c = true := by
  unfold magnitudeText at h
  split at h
  · exact List.all_eq_true.mp (by decide) c h
  · split at h
    · exact Decimal.isMark_of_mem_plainText h
    · exact Decimal.isMark_of_mem_scientificText h

/-- A number is written with digits, a point, a mark for the power of ten, minus signs, or the
letters of what is no finite number. -/
lemma isMark_of_mem_text {x : Float} {c : Char} (h : c ∈ text x) : isMark c = true := by
  unfold text at h
  split at h
  · exact List.all_eq_true.mp (by decide) c h
  · split at h
    · rcases List.mem_cons.mp h with rfl | h
      · rfl
      · exact isMark_of_mem_magnitudeText h
    · exact isMark_of_mem_magnitudeText h

end Number

/-! ## Literals -/

/-- Whether two values are equal, or numbers that are written alike. -/
inductive Value.Resembles : Value → Value → Prop where
  | number {x y : Float} (h : (Value.number x).text = (Value.number y).text) :
      Resembles (.number x) (.number y)
  | string (s : String) : Resembles (.string s) (.string s)
  | bool (b : Bool) : Resembles (.bool b) (.bool b)
  | nil : Resembles .nil .nil

/-- Whether a text ends where a blank or a closing parenthesis stands, and cannot be taken for one
of the texts that start with a sign of their own. -/
def Bare (text : List Char) : Prop :=
  ∀ c ∈ text, c ∉ [' ', ')', '(', '"']

lemma Bare.append_inj {a b r r' : List Char} (ha : Bare a) (hb : Bare b) (hr : Delimits r)
    (hr' : Delimits r') (h : a ++ r = b ++ r') : a = b ∧ r = r' := by
  have hends : ∀ {text}, Bare text → ∀ c ∈ text, ¬ (c = ' ' ∨ c = ')') := by
    intro text htext c hc hend
    exact htext c hc (by rcases hend with rfl | rfl <;> simp)
  exact append_inj_of_ends (hends ha) (hends hb) hr hr' h

/-- No bare text is taken for a node or for a quoted text. -/
lemma Bare.ne_cons {a r : List Char} (ha : Bare a) (hr : Delimits r) {c : Char}
    (hc : c = '(' ∨ c = '"') (rest : List Char) : a ++ r ≠ c :: rest := by
  intro h
  cases a with
  | nil =>
      have hends : c = ' ' ∨ c = ')' := hr c (by simp only [List.nil_append] at h; simp [h])
      rcases hc with rfl | rfl <;> simp at hends
  | cons d a =>
      obtain ⟨rfl, -⟩ := List.cons.inj h
      exact ha d List.mem_cons_self (by rcases hc with rfl | rfl <;> simp)

lemma bare_number (x : Float) : Bare (Number.text x) := by
  have hsigns : [' ', ')', '(', '"'].any Number.isMark = false := by decide
  intro c hc hsign
  exact List.any_eq_false.mp hsigns c hsign (Number.isMark_of_mem_text hc)

/-- A literal is a string, or it is written as its value is, in a bare text. -/
lemma string_or_bare (v : Value) :
    (∃ s, v = .string s) ∨
      v.string? = none ∧ Expr.literalText v = v.text ∧ Bare v.text.toList := by
  cases v with
  | number x => exact .inr ⟨rfl, rfl, by simpa [Value.text] using bare_number x⟩
  | string s => exact .inl ⟨s, rfl⟩
  | bool b => exact .inr ⟨rfl, rfl, by cases b <;> simp [Value.text, Bare]⟩
  | nil => exact .inr ⟨rfl, rfl, by simp [Value.text, Bare]⟩

/-- A word with a letter that numbers are not written with is not a number. -/
lemma text_number_ne {x : Float} {word : String} (h : word.toList.all Number.isMark = false) :
    (Value.number x).text ≠ word := by
  rintro rfl
  have hall : (Number.text x).all Number.isMark = true :=
    List.all_eq_true.mpr fun c hc => Number.isMark_of_mem_text hc
  simp only [Value.text, String.toList_ofList, hall] at h
  cases h

/-- Literals that are not strings are told apart by their texts, but for numbers written alike. -/
lemma Value.resembles_of_text {v w : Value} (hv : v.string? = none) (hw : w.string? = none)
    (h : v.text = w.text) : v.Resembles w := by
  cases v with
  | number x =>
      cases w with
      | number y => exact .number h
      | string s => cases hw
      | bool b => cases b <;> exact absurd h (text_number_ne (by decide))
      | nil => exact absurd h (text_number_ne (by decide))
  | string s => cases hv
  | bool b =>
      cases w with
      | number y => cases b <;> exact absurd h.symm (text_number_ne (by decide))
      | string s => cases hw
      | bool b' =>
          obtain rfl : b = b' := by
            revert h
            cases b <;> cases b' <;> decide
          exact .bool b
      | nil => cases b <;> exact absurd h (by decide)
  | nil =>
      cases w with
      | number y => exact absurd h.symm (text_number_ne (by decide))
      | string s => cases hw
      | bool b => cases b <;> exact absurd h (by decide)
      | nil => exact .nil

/-- A literal can be told from what is behind it. -/
lemma literal_append_inj {v w : Value} {r r' : List Char} (hr : Delimits r) (hr' : Delimits r')
    (h : (Expr.literalText v).toList ++ r = (Expr.literalText w).toList ++ r') :
    v.Resembles w ∧ r = r' := by
  have hquoted : ∀ s, (Expr.literalText (.string s)).toList = Text.quoted s.toList := by
    simp [Expr.literalText]
  rcases string_or_bare v with ⟨s, rfl⟩ | ⟨hv, htext, hbare⟩
  · rcases string_or_bare w with ⟨s', rfl⟩ | ⟨-, htext', hbare'⟩
    · rw [hquoted, hquoted] at h
      obtain ⟨hbody, rfl⟩ := Text.quoted_append_inj h
      obtain rfl := String.toList_inj.mp hbody
      exact ⟨.string s, rfl⟩
    · rw [hquoted, htext'] at h
      exact absurd h.symm (hbare'.ne_cons hr' (.inr rfl) _)
  · rcases string_or_bare w with ⟨s', rfl⟩ | ⟨hw, htext', hbare'⟩
    · rw [hquoted, htext] at h
      exact absurd h (hbare.ne_cons hr (.inr rfl) _)
    · rw [htext, htext'] at h
      obtain ⟨hsame, rfl⟩ := hbare.append_inj hbare' hr hr' h
      exact ⟨Value.resembles_of_text hv hw (String.toList_inj.mp hsame), rfl⟩

/-- No literal is taken for a node. -/
lemma literalText_ne_cons (v : Value) {r : List Char} (hr : Delimits r) (rest : List Char) :
    (Expr.literalText v).toList ++ r ≠ '(' :: rest := by
  rcases string_or_bare v with ⟨s, rfl⟩ | ⟨-, htext, hbare⟩
  · simp [Expr.literalText, Text.quoted]
  · rw [htext]
    exact hbare.ne_cons hr (.inl rfl) rest

end Reckon
