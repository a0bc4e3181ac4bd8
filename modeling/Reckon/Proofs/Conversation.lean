import Reckon.Proofs.Execution

/-!
# The prompt runs each line by itself

What the program prints at the prompt is what it prints for each line alone, one after the other.

**Lines.**  `Lines` cuts an input into lines by rules that say where a line ends: with a line feed,
which a carriage return may stand before, or with the input.  There is one way to cut up an input,
and it is how the prompt does it (`lines_inputLines`, `Lines.eq_inputLines`).

**Texts.**  The bytes of a line are those of a text, and then of one only, or of none
(`decode?_eq_some_iff`).

**Conversations.**  Nothing is kept from one line to the next, so the answers to lines that are
texts stand before whatever is printed for the lines behind them (`converse_append`).
-/

namespace Reckon.CommandLine

/-! ## Lines -/

/-- The lines of an input.  One that is ended by a line feed goes up to it, without a carriage
return right before it.  What no line feed ends is a line if it is not empty, and keeps all it
has. -/
inductive Lines : List UInt8 → List (List UInt8) → Prop where
  | empty : Lines [] []
  | unended {line : List UInt8} (hne : line ≠ []) (h : 10 ∉ line) : Lines line [line]
  | feed {line rest : List UInt8} {lines : List (List UInt8)} (h : 10 ∉ line)
      (hreturn : line.getLast? ≠ some 13) (hrest : Lines rest lines) :
      Lines (line ++ 10 :: rest) (line :: lines)
  | returnFeed {line rest : List UInt8} {lines : List (List UInt8)} (h : 10 ∉ line)
      (hrest : Lines rest lines) : Lines (line ++ 13 :: 10 :: rest) (line :: lines)

lemma inputLines_of_not_mem {line : List UInt8} (hne : line ≠ []) (h : 10 ∉ line) :
    inputLines line = [line] := by
  simp [inputLines, List.splitOn_eq_singleton h, hne]

/-- What stands before the first line feed is the first line, but for its carriage return. -/
lemma inputLines_append_feed {raw : List UInt8} (h : 10 ∉ raw) (rest : List UInt8) :
    inputLines (raw ++ 10 :: rest) = withoutReturn raw :: inputLines rest := by
  obtain ⟨first, more, hsplit⟩ := List.exists_cons_of_ne_nil (List.splitOn_ne_nil 10 rest)
  simp only [inputLines, List.splitOn_append_cons_self_of_not_mem h, hsplit, List.getLastD_cons,
    List.dropLast_cons_cons, List.map_cons, List.cons_append]

lemma withoutReturn_concat (line : List UInt8) : withoutReturn (line ++ [13]) = line := by
  simp [withoutReturn]

lemma withoutReturn_of_ne {line : List UInt8} (h : line.getLast? ≠ some 13) :
    withoutReturn line = line :=
  if_neg h

/-- There is no other way to cut up an input. -/
lemma Lines.eq_inputLines {input : List UInt8} {lines : List (List UInt8)} (h : Lines input lines) :
    lines = inputLines input := by
  induction h with
  | empty => rfl
  | unended hne hline => exact (inputLines_of_not_mem hne hline).symm
  | feed hline hreturn _ ih =>
      rw [inputLines_append_feed hline, withoutReturn_of_ne hreturn, ih]
  | @returnFeed line rest lines hline _ ih =>
      have hraw : 10 ∉ line ++ [13] := by simp [hline]
      have hinput : line ++ 13 :: 10 :: rest = line ++ [13] ++ 10 :: rest := by simp
      rw [hinput, inputLines_append_feed hraw, withoutReturn_concat, ih]

/-- The prompt cuts up its input into lines.  The induction goes from the first line feed to what is
behind it. -/
lemma lines_inputLines (input : List UInt8) : Lines input (inputLines input) := by
  induction hlength : input.length using Nat.strongRecOn generalizing input with
  | ind n ih =>
      by_cases hfeed : 10 ∈ input
      · obtain ⟨raw, rest, rfl, hraw⟩ := List.eq_append_cons_of_mem hfeed
        have hrest := ih rest.length (by simp [← hlength]; omega) rest rfl
        rw [inputLines_append_feed hraw]
        by_cases hreturn : raw.getLast? = some 13
        · obtain ⟨line, rfl⟩ := List.getLast?_eq_some_iff.mp hreturn
          have hline : 10 ∉ line := fun hmem => hraw (by simp [hmem])
          rw [withoutReturn_concat, List.append_assoc]
          exact .returnFeed hline hrest
        · rw [withoutReturn_of_ne hreturn]
          exact .feed hraw hreturn hrest
      · by_cases hempty : input = []
        · subst hempty
          exact .empty
        · rw [inputLines_of_not_mem hempty hfeed]
          exact .unended hempty hfeed

/-! ## Texts -/

lemma decode?_eq_some_iff {bytes : List UInt8} {text : String} :
    decode? bytes = some text ↔ bytes = encode text := by
  constructor
  · intro h
    simp only [decode?, String.fromUTF8?] at h
    split at h
    · rw [← Option.some.inj h]
      rfl
    · cases h
  · rintro rfl
    exact decode?_encode text

/-- Bytes that are not decoded are those of no text. -/
lemma ne_encode_of_decode?_eq_none {bytes : List UInt8} (h : decode? bytes = none) (text : String) :
    bytes ≠ encode text := by
  rintro rfl
  rw [decode?_encode] at h
  cases h

/-! ## Conversations -/

/-- What is printed for texts one after the other, each behind a prompt. -/
def answers (flags : Flags) (texts : List String) : Output :=
  ⟨String.join (texts.map fun text => "> " ++ (execute flags text).1.out),
    String.join (texts.map fun text => (execute flags text).1.err)⟩

lemma Output.append_assoc (a b c : Output) : a ++ b ++ c = a ++ (b ++ c) := by
  show Output.mk (a.out ++ b.out ++ c.out) (a.err ++ b.err ++ c.err) =
    Output.mk (a.out ++ (b.out ++ c.out)) (a.err ++ (b.err ++ c.err))
  rw [String.append_assoc, String.append_assoc]

lemma answers_cons (flags : Flags) (text : String) (texts : List String) :
    answers flags (text :: texts) =
      .toOut promptText ++ (execute flags text).1 ++ answers flags texts := by
  simp only [answers, List.map_cons, String.join_cons]
  exact congrArg (Output.mk _) (congrArg (· ++ _) String.empty_append.symm)

/-- Lines that are texts are answered, and the lines behind them as if they stood alone. -/
lemma converse_append (flags : Flags) (texts : List String) (lines : List (List UInt8)) :
    converse flags (texts.map encode ++ lines) =
      (answers flags texts ++ (converse flags lines).1, (converse flags lines).2) := by
  induction texts with
  | nil =>
      have hnone : answers flags [] = .toOut "" := rfl
      rw [hnone, Output.toOut_empty_append]
      rfl
  | cons text texts ih =>
      simp only [List.map_cons, List.cons_append, converse, respond?, decode?_encode,
        Option.map_some, ih, answers_cons, Output.append_assoc]

/-- The lines are all texts, or some are and then comes one that is none. -/
lemma exists_texts (lines : List (List UInt8)) :
    (∃ texts : List String, lines = texts.map encode) ∨
      ∃ (texts : List String) (bad : List UInt8) (later : List (List UInt8)),
        lines = texts.map encode ++ bad :: later ∧ decode? bad = none := by
  induction lines with
  | nil => exact .inl ⟨[], rfl⟩
  | cons line lines ih =>
      cases hline : decode? line with
      | none => exact .inr ⟨[], line, lines, rfl, hline⟩
      | some text =>
          obtain rfl := decode?_eq_some_iff.mp hline
          rcases ih with ⟨texts, rfl⟩ | ⟨texts, bad, later, rfl, hbad⟩
          · exact .inl ⟨text :: texts, rfl⟩
          · exact .inr ⟨text :: texts, bad, later, rfl, hbad⟩

/-- **The prompt runs each line by itself.**  An input has its lines in one way.  Where all of them
are texts, what is printed is, for each in order, a prompt and what the program prints for that text
alone, and at the end a prompt and a line feed; the exit code is zero, whatever went wrong.  At the
first line that is no text the prompt stops: that line is reported, no later line is run, and the
exit code is one. -/
theorem prompt_answers_each_line (flags : Flags) (input : List UInt8) :
    ∃ lines, Lines input lines ∧ (∀ other, Lines input other → other = lines) ∧
      ((∃ texts, lines = texts.map encode ∧
          prompt flags input = (answers flags texts ++ .toOut "> \n", 0)) ∨
        ∃ texts bad later, lines = texts.map encode ++ bad :: later ∧
          (∀ text, bad ≠ encode text) ∧
          prompt flags input = (answers flags texts ++ .toOut "> " ++
            .toErr "Failed to read input: stream did not contain valid UTF-8\n", 1)) := by
  refine ⟨inputLines input, lines_inputLines input, fun other h => h.eq_inputLines, ?_⟩
  rcases exists_texts (inputLines input) with ⟨texts, hlines⟩ | ⟨texts, bad, later, hlines, hbad⟩
  · refine .inl ⟨texts, hlines, ?_⟩
    rw [prompt, hlines, ← List.append_nil (texts.map encode), converse_append]
    rfl
  · refine .inr ⟨texts, bad, later, hlines, ne_encode_of_decode?_eq_none hbad, ?_⟩
    rw [prompt, hlines, converse_append, Output.append_assoc, converse, respond?, hbad]
    rfl

end Reckon.CommandLine
