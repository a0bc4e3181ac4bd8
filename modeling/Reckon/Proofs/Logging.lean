import Mathlib.Tactic.Common
import Reckon.Session

/-!
# Passes only add to the log

Scanning, reading and evaluation write what they find to a log that they share.  None of them can
tell what is in it, and none takes anything out.

**Computations.**  `Appends` says this of any computation with a log: on every log it comes to what
it comes to on an empty one, and adds the same.  Going through a list keeps it, with what is added
in the order of the list (`Appends.run_mapM`).

**Passes.**  Scanning reports on one piece of source after another, and the reports together are all
the diagnostics of the source in order (`run_filterMapM_piece`).  Reading and evaluation report what
they fail with, once or not at all (`run_settle`).  A session is then the sources one by one, and of
each there is in the log what scanning, reading and evaluation have to say (`found`).
-/

namespace Reckon

namespace Reporting

variable {α β : Type}

/-! ## Computations -/

/-- What a computation comes to on an empty log. -/
def result (x : Reporting α) : α :=
  (x.run []).1

/-- What a computation leaves in an empty log. -/
def added (x : Reporting α) : Log :=
  (x.run []).2

/-- On any log a computation comes to what it comes to on an empty one, and puts behind the log what
it would have left in an empty one. -/
def Appends (x : Reporting α) : Prop :=
  ∀ log, x.run log = (x.result, log ++ x.added)

/-- What a failure adds: its diagnostic.  A success adds nothing. -/
def faults : Except Diagnostic α → Log
  | .ok _ => []
  | .error d => [d]

/-- A computation that has a result and adds nothing, or has none and adds one diagnostic. -/
def Settles (x : Reporting (Option α)) : Prop :=
  (∃ a, x.result = some a ∧ x.added = []) ∨ ∃ d, x.result = none ∧ x.added = [d]

/-- Whatever comes out the same on every log, and adds the same, appends. -/
lemma Appends.of_run {x : Reporting α} {a : α} {ds : List Diagnostic}
    (h : ∀ log, x.run log = (a, log ++ ds)) : x.Appends := by
  intro log
  simp [result, added, h]

lemma result_of_run {x : Reporting α} {a : α} {ds : List Diagnostic}
    (h : ∀ log, x.run log = (a, log ++ ds)) : x.result = a := by
  rw [result, h]

lemma added_of_run {x : Reporting α} {a : α} {ds : List Diagnostic}
    (h : ∀ log, x.run log = (a, log ++ ds)) : x.added = ds := by
  rw [added, h, List.nil_append]

lemma run_pure (a : α) (log : Log) : (pure a : Reporting α).run log = (a, log) := rfl

lemma run_bind (x : Reporting α) (f : α → Reporting β) (log : Log) :
    (x >>= f).run log = (f (x.run log).1).run (x.run log).2 := rfl

/-- A computation for each entry of a list: the results are in order, and so is what is added. -/
lemma Appends.run_mapM {f : α → Reporting β} (hf : ∀ a, (f a).Appends) (l : List α) (log : Log) :
    (l.mapM f).run log = (l.map fun a => (f a).result, log ++ l.flatMap fun a => (f a).added) := by
  induction l generalizing log with
  | nil => rw [List.mapM_nil, run_pure, List.flatMap_nil, List.append_nil, List.map_nil]
  | cons a l ih =>
      rw [List.mapM_cons, Reporting.run_bind, Reporting.run_bind, hf a log, ih, run_pure,
        List.append_assoc]
      rfl

/-! ## Passes -/

/-- A piece is the token that scanning makes of it, and adds the diagnostic that scanning has. -/
lemma run_piece (located : Located) (log : Log) :
    (piece located).run log = (located.token?, log ++ located.diagnostic?.toList) := by
  unfold piece
  cases located.diagnostic? with
  | none => exact congrArg (Prod.mk _) (List.append_nil log).symm
  | some d => rfl

/-- Going through the pieces of a source, nothing is lost, repeated or put in another order. -/
lemma run_filterMapM_piece (pieces : List Located) (log : Log) :
    (pieces.filterMapM piece).run log =
      (pieces.filterMap Located.token?, log ++ pieces.filterMap Located.diagnostic?) := by
  induction pieces generalizing log with
  | nil =>
      rw [List.filterMapM_nil, run_pure, List.filterMap_nil, List.filterMap_nil, List.append_nil]
  | cons located pieces ih =>
      have hadded : (located :: pieces).filterMap Located.diagnostic? =
          located.diagnostic?.toList ++ pieces.filterMap Located.diagnostic? := by
        cases hd : located.diagnostic? <;> simp [hd]
      rw [List.filterMapM_cons, run_bind, run_piece, hadded, ← List.append_assoc]
      cases htoken : located.token? with
      | none => rw [List.filterMap_cons_none htoken, ih]
      | some t => rw [List.filterMap_cons_some htoken, run_bind, ih, run_pure]

lemma run_tokens (source : String) (log : Log) :
    (tokens source).run log = ((scan source).tokens, log ++ (scan source).diagnostics) := by
  simp only [tokens]
  rw [run_bind, run_filterMapM_piece]
  rfl

/-- A result is returned, and a failure is reported and nothing returned. -/
lemma run_settle (x : Except Diagnostic α) (log : Log) :
    (settle x).run log = (x.toOption, log ++ faults x) := by
  cases x with
  | ok a => exact congrArg (Prod.mk _) (List.append_nil log).symm
  | error d => rfl

lemma settles_settle (x : Except Diagnostic α) : (settle x).Settles := by
  cases x with
  | ok a => exact .inl ⟨a, rfl, rfl⟩
  | error d => exact .inr ⟨d, rfl, rfl⟩

end Reporting

open Reporting

/-- What is found wrong with a source on its own, and with no log: all that scanning finds, and
behind it what reading fails with, whatever tokens it has, or else evaluation. -/
def found (source : String) : Log :=
  (scan source).diagnostics ++ faults (parse (scan source).tokens >>= Expr.eval)

/-- What a source comes to on its own: its tokens, the expression if there is one at their start,
and the value if the expression has one. -/
def attempted (source : String) : Attempt where
  tokens := (scan source).tokens
  expression := (parse (scan source).tokens).toOption
  value := (parse (scan source).tokens >>= Expr.eval).toOption

/-- An attempt does the passes one behind the other, the third only if the second has a result. -/
lemma run_attempt (source : String) (log : Log) :
    (attempt source).run log = (attempted source, log ++ found source) := by
  rw [attempt, run_bind, run_tokens, run_bind, expression, run_settle, attempted, found]
  cases parse (scan source).tokens with
  | error d => exact congrArg (Prod.mk _) (List.append_assoc log _ [d])
  | ok e =>
      rw [faults, List.append_nil, ← List.append_assoc]
      exact congrArg (fun settled => (Attempt.mk _ (some e) settled.1, settled.2))
        (run_settle e.eval _)

/-- **The log is only added to, and never looked at.**  Whatever is in it, each pass returns what it
returns on an empty log and adds what it would have left in an empty one.  Scanning returns the
tokens of the source and adds its diagnostics.  Reading and evaluation return what they come to and
add nothing, or return nothing and add what they fail with.  So each source of a session fares as it
would alone, and the log at the end is what is found wrong with each source alone, one after the
other. -/
theorem passes_append_to_log :
    (∀ source, (tokens source).Appends ∧ (tokens source).result = (scan source).tokens ∧
      (tokens source).added = (scan source).diagnostics) ∧
    (∀ tokens, (expression tokens).Appends ∧ (expression tokens).Settles ∧
      (expression tokens).result = (parse tokens).toOption ∧
      (expression tokens).added = faults (parse tokens)) ∧
    (∀ e, (value e).Appends ∧ (value e).Settles ∧ (value e).result = e.eval.toOption ∧
      (value e).added = faults e.eval) ∧
    (∀ source, (attempt source).Appends ∧ (attempt source).result = attempted source ∧
      (attempt source).added = found source) ∧
    ∀ sources log, (session sources).run log =
      (sources.map fun source => (attempt source).result, log ++ sources.flatMap found) := by
  refine ⟨fun source => ?_, fun tokens => ?_, fun e => ?_, fun source => ?_, fun sources log => ?_⟩
  · have hrun := run_tokens source
    exact ⟨.of_run hrun, result_of_run hrun, added_of_run hrun⟩
  · have hrun := run_settle (parse tokens)
    exact ⟨.of_run hrun, settles_settle _, result_of_run hrun, added_of_run hrun⟩
  · have hrun := run_settle e.eval
    exact ⟨.of_run hrun, settles_settle _, result_of_run hrun, added_of_run hrun⟩
  · have hrun := run_attempt source
    exact ⟨.of_run hrun, result_of_run hrun, added_of_run hrun⟩
  · have hadded : ∀ source, (attempt source).added = found source :=
      fun source => added_of_run (run_attempt source)
    rw [session, Appends.run_mapM fun source => .of_run (run_attempt source)]
    simp only [hadded]

end Reckon
