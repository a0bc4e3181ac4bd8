import Reckon.CommandLine.Program
import Reckon.Proofs.Pieces
import Reckon.Proofs.Stages

/-!
# The program shows what a run comes to

The program goes through the stages of a run by itself, since it prints between them.  What it
prints and how it ends is nevertheless a function of what `run` returns.

**Without options.**  `reported` turns the result of a run into what is printed for it, and the
program without options prints exactly that (`execute_eq_reported`).  That the outcome can be told
from the diagnostics alone is because the stages do not share faults.

**With options.**  The lines that are asked for come before everything else, and change nothing else
(`execute_eq_append`).
-/

namespace Reckon

/-- Whether a fault is that of an operand of the wrong kind. -/
def Fault.isOperand : Fault → Bool
  | .operandNotNumber .. | .operandNotString .. | .operandNotBool .. => true
  | _ => false

/-- Only evaluation finds operands of the wrong kind, and it finds nothing else. -/
lemma Fault.isOperand_iff {fault : Fault} {stage : Stage} (h : fault.stage? = some stage) :
    fault.isOperand = true ↔ stage = .evaluation := by
  cases fault <;> cases h <;> simp [Fault.isOperand]

namespace CommandLine

/-! ## What is printed -/

/-- The options of a program that is not asked for anything. -/
def Flags.plain : Flags := ⟨false, false⟩

/-- The tokens of a source, each on a line of its own, with the end of the input. -/
def tokenLines (source : String) : String :=
  String.join ((scan source).tokens.map (·.text ++ "\n"))

/-- The expression that a source without faults in its text is read as. -/
def expression? (source : String) : Option Expr :=
  if (scan source).diagnostics = [] then (parse (scan source).tokens).toOption else none

/-- The tree of a source on a line of its own, if the source can be read. -/
def treeLine (source : String) : String :=
  (expression? source).elim "" (·.text ++ "\n")

/-- What is printed for the result of a run, and how far the source got. -/
def reported (source : String) : Except (List Diagnostic) Value → Output × Outcome
  | .ok value => (.toOut (value.text ++ "\n"), .success)
  | .error ds =>
    (.toErr (Diagnostic.render source ds),
      if ∃ d ∈ ds, d.fault.isOperand = true then .runtimeError else .staticError)

/-- The bytes of a text. -/
def encode (source : String) : List UInt8 :=
  source.toUTF8.data.toList

lemma decode?_encode (source : String) : decode? (encode source) = some source := by
  have hvalid : (⟨source.toByteArray.data⟩ : ByteArray).IsValidUTF8 := source.isValidUTF8
  simp only [decode?, encode, String.fromUTF8?, String.toUTF8_eq_toByteArray, Array.toArray_toList,
    dif_pos hvalid]
  rfl

namespace Output

lemma toOut_empty_append (a : Output) : toOut "" ++ a = a := by
  show mk ("" ++ a.out) ("" ++ a.err) = a
  rw [String.empty_append, String.empty_append]

lemma toOut_append_toOut (a b : String) : toOut a ++ toOut b = toOut (a ++ b) := rfl

end Output

/-! ## With options -/

lemma linesIf_tokens (wanted : Bool) (source : String) :
    linesIf wanted ((scan source).tokens.map Token.text) =
      .toOut (if wanted then tokenLines source else "") := by
  cases wanted with
  | false => rfl
  | true => simp [linesIf, tokenLines, Function.comp_def]

lemma linesIf_tree (wanted : Bool) (e : Expr) :
    linesIf wanted [e.text] = .toOut (if wanted then e.text ++ "\n" else "") := by
  cases wanted with
  | false => rfl
  | true => simp [linesIf, String.join]

/-- The lines that the options ask for. -/
def asked (flags : Flags) (source : String) : String :=
  (if flags.tokens then tokenLines source else "") ++ if flags.tree then treeLine source else ""

/-- Options put lines before what is printed without them, and change nothing else. -/
lemma execute_eq_append (flags : Flags) (source : String) :
    execute flags source =
      (.toOut (asked flags source) ++ (execute .plain source).1, (execute .plain source).2) := by
  simp only [execute, asked, linesIf_tokens, linesIf_tree, List.isEmpty_iff, Flags.plain,
    Bool.false_eq_true, if_false]
  by_cases hscan : (scan source).diagnostics = []
  · simp only [hscan, if_true]
    cases hparse : parse (scan source).tokens with
    | error d =>
        have htree : treeLine source = "" := by
          simp [treeLine, expression?, hscan, hparse, Except.toOption]
        simp only [htree, ite_self, String.append_empty, Output.toOut_empty_append]
    | ok e =>
        have htree : treeLine source = e.text ++ "\n" := by
          simp [treeLine, expression?, hscan, hparse, Except.toOption]
        simp only [htree, Output.toOut_append_toOut, String.append_empty, Output.toOut_empty_append]
  · have htree : treeLine source = "" := by simp [treeLine, expression?, hscan]
    simp only [hscan, htree, if_false, ite_self, String.append_empty, Output.toOut_empty_append]

/-! ## Without options -/

/-- What is found by evaluation is a fault of an operand, and what is found before is not. -/
lemma reported_of_stage {source : String} {ds : List Diagnostic} (hds : ds ≠ []) {stage : Stage}
    (h : ∀ d ∈ ds, d.fault.stage? = some stage) :
    reported source (.error ds) = (.toErr (Diagnostic.render source ds),
      if stage = .evaluation then .runtimeError else .staticError) := by
  have hiff : (∃ d ∈ ds, d.fault.isOperand = true) ↔ stage = .evaluation := by
    constructor
    · rintro ⟨d, hd, hoperand⟩
      exact (Fault.isOperand_iff (h d hd)).mp hoperand
    · intro hstage
      obtain ⟨d, hd⟩ := List.exists_mem_of_ne_nil ds hds
      exact ⟨d, hd, (Fault.isOperand_iff (h d hd)).mpr hstage⟩
  simp only [reported, hiff]

lemma reported_singleton {source : String} {d : Diagnostic} {stage : Stage}
    (h : d.fault.stage? = some stage) :
    reported source (.error [d]) = (.toErr (Diagnostic.render source [d]),
      if stage = .evaluation then .runtimeError else .staticError) := by
  refine reported_of_stage (List.cons_ne_nil d []) ?_
  intro d' hd'
  obtain rfl := List.mem_singleton.mp hd'
  exact h

/-- **The program without options prints what a run comes to.** -/
theorem execute_eq_reported (source : String) :
    execute .plain source = reported source (run source) := by
  simp only [execute, run, linesIf_tokens, linesIf_tree, List.isEmpty_iff, Flags.plain,
    Bool.false_eq_true, if_false, Output.toOut_empty_append]
  -- the program branches as a run does, and each branch reports the faults of one stage
  by_cases hscan : (scan source).diagnostics = []
  · simp only [hscan, if_true]
    cases hparse : parse (scan source).tokens with
    | error d =>
        rw [reported_singleton (stage?_of_parse_eq_error hparse)]
        rfl
    | ok e =>
        simp only [finish]
        cases heval : e.eval with
        | ok value => rfl
        | error d =>
            have hstage := (legal_of_parse_eq_ok hparse).stage?_eq_of_eval heval
            simp only [reported_singleton hstage, if_true]
  · simp only [hscan, if_false]
    rw [reported_of_stage hscan fun d hd => stage?_of_mem_diagnostics hd]
    rfl

/-! ## Agreement -/

lemma runFile_encode (flags : Flags) (path source : String) :
    runFile flags path (.ok (encode source)) =
      ((execute flags source).1, (execute flags source).2.exitCode) := by
  simp only [runFile, decode?_encode]

/-- **The program agrees with the library.**  Where a run comes to a value, the program succeeds,
the value is the last that it prints, and nothing is printed as wrong.  Where it fails, the program
prints its diagnostics, and the outcome and the exit code tell whether an operand was of the wrong
kind.  The options only put lines before what is printed: the tokens, also where the text has
faults, and the tree, also where its evaluation fails. -/
theorem execute_agrees_with_run (flags : Flags) (source : String) :
    (∀ v, run source = .ok v →
      (execute flags source).2 = .success ∧ (execute flags source).1.err = "" ∧
      ∃ before, (execute flags source).1.out = before ++ (v.text ++ "\n")) ∧
    (∀ ds, run source = .error ds →
      (execute flags source).1.err = Diagnostic.render source ds ∧
      ((execute flags source).2 =
        if ∃ d ∈ ds, d.fault.isOperand = true then .runtimeError else .staticError) ∧
      ∀ path, (runFile flags path (.ok (encode source))).2 =
        if ∃ d ∈ ds, d.fault.isOperand = true then 70 else 65) ∧
    (execute flags source).1.err = (execute .plain source).1.err ∧
    (execute flags source).2 = (execute .plain source).2 ∧
    (execute flags source).1.out =
      (if flags.tokens then tokenLines source else "") ++
        (if flags.tree then treeLine source else "") ++ (execute .plain source).1.out := by
  have herr : (execute flags source).1.err = (execute .plain source).1.err := by
    rw [execute_eq_append flags]
    exact String.empty_append
  have houtcome : (execute flags source).2 = (execute .plain source).2 := by
    rw [execute_eq_append flags]
  have hout : (execute flags source).1.out =
      asked flags source ++ (execute .plain source).1.out := by
    rw [execute_eq_append flags]
    rfl
  refine ⟨fun v hrun => ?_, fun ds hrun => ?_, herr, houtcome, hout⟩
  · rw [herr, houtcome, hout, execute_eq_reported, hrun]
    exact ⟨rfl, rfl, asked flags source, rfl⟩
  · have hcode : (execute flags source).2 =
        if ∃ d ∈ ds, d.fault.isOperand = true then .runtimeError else .staticError := by
      rw [houtcome, execute_eq_reported, hrun]
      rfl
    refine ⟨?_, hcode, fun path => ?_⟩
    · rw [herr, execute_eq_reported, hrun]
      rfl
    · rw [runFile_encode, hcode]
      split <;> rfl

def nilToken : Token := ⟨.keyword .nilWord, "nil", none, 1⟩

def minusToken : Token := ⟨.minus, "-", none, 1⟩

lemma segments_nil_word : segments ['n', 'i', 'l'] = [⟨.word, ['n', 'i', 'l']⟩] := by
  have hword : Segment.take 'n' ['i', 'l'] = (⟨.word, ['n', 'i', 'l']⟩, []) := by decide
  rw [segments_cons, hword, segments_nil]

lemma segments_minus_nil_word :
    segments ['-', 'n', 'i', 'l'] = [⟨.symbol .minus, ['-']⟩, ⟨.word, ['n', 'i', 'l']⟩] := by
  have hminus : Segment.take '-' ['n', 'i', 'l'] =
      (⟨.symbol .minus, ['-']⟩, ['n', 'i', 'l']) := by decide
  rw [segments_cons, hminus, segments_nil_word]

lemma run_nil_word : run "nil" = .ok .nil := by
  have hscan : scan "nil" = ⟨[nilToken, Token.endAt 1], []⟩ := by
    rw [scan, show "nil".toList = ['n', 'i', 'l'] from rfl, segments_nil_word]
    rfl
  have hder : Derives .expression [nilToken] (.literal .nil) :=
    .operand (.operand (.operand (.operand (.primary (.constant rfl)))))
  have hheads : Heads [nilToken, Token.endAt 1] [nilToken] _ := ⟨[], by decide, hder, by simp⟩
  rw [hheads.run_eq hscan (by decide)]
  rfl

lemma run_minus_nil_word : run "-nil" = .error [⟨.operandNotNumber "-" "nil", 1⟩] := by
  have hscan : scan "-nil" = ⟨[minusToken, nilToken, Token.endAt 1], []⟩ := by
    rw [scan, show "-nil".toList = ['-', 'n', 'i', 'l'] from rfl, segments_minus_nil_word]
    rfl
  have hder : Derives .expression [minusToken, nilToken] (.unary minusToken (.literal .nil)) :=
    .operand (.operand (.operand (.operand (.prefixed (by decide) (.primary (.constant rfl))))))
  have hheads : Heads [minusToken, nilToken, Token.endAt 1] [minusToken, nilToken] _ :=
    ⟨[], by decide, hder, by simp⟩
  rw [hheads.run_eq hscan (by decide)]
  rfl

/-- With both options: a value is the last that is printed, and a negated one that is no number
gives the exit code of a fault in evaluation. -/
theorem execute_nil_words :
    ((execute ⟨true, true⟩ "nil").2 = .success ∧
      ∃ before, (execute ⟨true, true⟩ "nil").1.out = before ++ "nil\n") ∧
    (execute ⟨true, true⟩ "-nil").1.err =
      Diagnostic.render "-nil" [⟨.operandNotNumber "-" "nil", 1⟩] ∧
    (runFile ⟨true, true⟩ "input" (.ok (encode "-nil"))).2 = 70 := by
  obtain ⟨hsuccess, -, hout⟩ := (execute_agrees_with_run ⟨true, true⟩ "nil").1 _ run_nil_word
  obtain ⟨herr, -, hcode⟩ :=
    (execute_agrees_with_run ⟨true, true⟩ "-nil").2.1 _ run_minus_nil_word
  exact ⟨⟨hsuccess, hout⟩, herr, hcode "input"⟩

end CommandLine

end Reckon
