import Reckon.Proofs.Lookahead

/-!
# How deep the rules call each other

Reading is defined by recursion on the room, which makes it total and says nothing of how many rules
are in the middle of their work at a time.  Here the rules are written once more, as they work: they
call each other by name and open and close levels on the parser itself.

**Budgets.**  `Calling.within budget` lets rules call each other with a budget of calls inside of
calls, and yields nothing if a rule is called with none left.  Nothing else ends the recursion: the
rules know neither the room nor how many tokens there are.

**The same reading.**  `Settles n x reader` says that with `n` levels open the computation always
has an outcome, and that it is the one of the reader.  There is one lemma for each way in which
rules are built.  On the way from a rule back to itself there are at most eight calls, and at least
one level is opened, so the budget that suffices grows by eight with each level that there is room
for (`settles_within`).

**No less will do.**  As many opening parentheses as there is room for, and one more, need all of it
(`within_parens_eq_none`).
-/

namespace Reckon

open Rules (Level)

/-! ## Rules as calls -/

/-- What is done with a parser by rules that call each other: it yields nothing if a call was made
with none left to make. -/
abbrev Calling := ExceptT Diagnostic (StateT Parser Option)

namespace Calling

/-- A call with none left to make. -/
def exhausted : Calling Expr := fun _ => none

def current : Calling Token := fun p => some (.ok p.stream.current, p)

def advance : Calling Token := fun p => some (.ok p.advance.1, p.advance.2)

def accept? (kinds : List Token.Kind) : Calling (Option Token) := fun p =>
  match p.accept? kinds with
  | some (t, next) => some (.ok (some t), next)
  | none => some (.ok none, p)

def expect (kind : Token.Kind) (otherwise : Diagnostic) : Calling Token := fun p =>
  match p.expect kind otherwise with
  | .ok (t, next) => some (.ok t, next)
  | .error d => some (.error d, p)

def enter : Calling Unit := fun p =>
  match p.enter with
  | .ok next => some (.ok (), next)
  | .error d => some (.error d, p)

def leave : Calling Unit := fun p => some (.ok (), p.leave)

def checkDepth (depth : Nat) (t : Token) : Calling Unit := fun p =>
  some (Parser.checkDepth depth t, p)

/-- Reads operators of a level and their right operands behind a left operand. -/
def chain (level : Level) (operand : Calling Expr) (left : Expr) : Calling Expr := do
  match ← accept? level.operators with
  | none => pure left
  | some operator =>
    let right ← operand
    if maxDepth < (Expr.binary left operator right).depth then throw operator.tooDeep
    else chain level operand (.binary left operator right)
termination_by maxDepth - left.depth
decreasing_by simp only [Expr.depth] at *; omega

def binary (level : Level) (operand : Calling Expr) : Calling Expr := do
  let left ← operand
  chain level operand left

def unary (call : Rule → Calling Expr) : Calling Expr := do
  match ← accept? [.minus, .bang] with
  | none => call .primary
  | some operator =>
    enter
    let operand ← call .unary
    leave
    checkDepth (operand.depth + 1) operator
    pure (.unary operator operand)

def carried : Calling Expr := do
  let t ← advance
  match t.literal with
  | some value => pure (.literal value)
  | none => throw ⟨.expectedExpression t.lexeme, t.line⟩

def constant (value : Value) : Calling Expr := do
  let _ ← advance
  pure (.literal value)

def primary (call : Rule → Calling Expr) : Calling Expr := do
  let t ← current
  match t.kind with
  | .keyword .trueWord => constant (.bool true)
  | .keyword .falseWord => constant (.bool false)
  | .keyword .nilWord => constant .nil
  | .number | .string => carried
  | .leftParen => call .grouping
  | _ => throw ⟨.expectedExpression t.describe, t.line⟩

def closing (opening : Token) (inner : Expr) : Calling Expr := do
  let found ← current
  let _ ← expect .rightParen ⟨.unterminatedGrouping found.describe, found.line⟩
  checkDepth (inner.depth + 1) opening
  pure (.grouping inner)

def grouping (call : Rule → Calling Expr) : Calling Expr := do
  let opening ← advance
  enter
  let inner ← call .expression
  leave
  closing opening inner

/-- A rule by the rules that it calls. -/
def rule (call : Rule → Calling Expr) : Rule → Calling Expr
  | .expression => call .equality
  | .equality => binary .equality (call .comparison)
  | .comparison => binary .comparison (call .term)
  | .term => binary .term (call .factor)
  | .factor => binary .factor (call .unary)
  | .unary => unary call
  | .primary => primary call
  | .grouping => grouping call

/-- A rule with a budget of calls inside of calls, itself included. -/
def within : Nat → Rule → Calling Expr
  | 0, _ => exhausted
  | budget + 1, r => rule (within budget) r

/-! ## The same reading -/

lemma bind_apply {α β : Type} (x : Calling α) (f : α → Calling β) (p : Parser) :
    (x >>= f) p = match x p with
      | none => none
      | some (.ok a, next) => f a next
      | some (.error d, next) => some (.error d, next) := by
  show (x p).bind _ = _
  rcases x p with _ | ⟨_ | _, _⟩ <;> rfl

lemma accept?_bind {α : Type} (kinds : List Token.Kind) (f : Option Token → Calling α) (s : Stream)
    (n : Nat) :
    (accept? kinds >>= f) ⟨s, n⟩ = match s.accept? kinds with
      | none => f none ⟨s, n⟩
      | some (t, rest) => f (some t) ⟨rest, n⟩ := by
  simp only [bind_apply, accept?, Parser.accept?]
  cases s.accept? kinds <;> rfl

/-- The outcome of reading, for a parser with a number of levels open. -/
def settled (n : Nat) : Except Stop (Expr × Stream) → Except Diagnostic Expr × Parser
  | .ok (e, rest) => (.ok e, ⟨rest, n⟩)
  | .error stop => (.error stop.diagnostic, ⟨stop.rest, n + stop.leftOpen⟩)

lemma read_eq_settled (p : Parser) (r : Rule) :
    p.read r = settled p.nesting (r.read p.room p.stream) := by
  simp only [Parser.read]
  cases r.read p.room p.stream <;> rfl

/-- With a number of levels open, calls come to an end, and to the outcome of a reader. -/
def Settles (n : Nat) (x : Calling Expr) (reader : Reader) : Prop :=
  ∀ s, x ⟨s, n⟩ = some (settled n (reader s))

namespace Settles

variable {n : Nat}

/-- A success leaves as many levels open as there were, so what comes next starts with as many. -/
lemma andThen {x : Calling Expr} {f : Expr → Calling Expr} {reader : Reader}
    {next : Expr → Reader} (h : Settles n x reader) (hnext : ∀ e, Settles n (f e) (next e)) :
    Settles n (x >>= f) fun s => andThen (reader s) next := by
  intro s
  rw [bind_apply, h s]
  cases hread : reader s with
  | error stop => simp only [hread, settled, Reckon.andThen]
  | ok result =>
      simp only [hread, Reckon.andThen]
      exact hnext result.1 result.2

lemma node (t : Token) {e : Expr} {depth : Nat} (hdepth : e.depth = depth) :
    Settles n (do checkDepth depth t; pure e) (Rules.node t e) := by
  intro s
  simp only [bind_apply, checkDepth, Parser.checkDepth, Rules.node, hdepth]
  by_cases hdeep : maxDepth < depth
  · simp only [if_pos hdeep]
    rfl
  · simp only [if_neg hdeep]
    rfl

lemma chain {operand : Calling Expr} {reader : Reader} (h : Settles n operand reader)
    (level : Level) (l : Expr) :
    Settles n (Calling.chain level operand l) (Rules.chain level reader l) := by
  induction l using Expr.growing_induction with
  | step l ih =>
      intro s
      rw [Calling.chain, Rules.chain_eq, accept?_bind]
      cases s.accept? level.operators with
      | none => rfl
      | some result =>
          refine h.andThen (fun r s' => ?_) result.2
          simp only [Rules.joining]
          split
          · rfl
          · rename_i hdepth
            exact ih result.1 r (Nat.le_of_not_lt hdepth) s'

lemma binary {operand : Calling Expr} {reader : Reader} (h : Settles n operand reader)
    (level : Level) : Settles n (Calling.binary level operand) (Rules.binary level reader) :=
  h.andThen (h.chain level)

/-- A level is opened, and closed again if reading succeeds inside.  Where it cannot be opened, no
call is made. -/
lemma nested (reader : Reader → Reader) {x : Calling Expr} {f : Expr → Calling Expr}
    {next : Expr → Reader}
    (h : ∀ below, maxDepth - n = below + 1 →
      Settles (n + 1) x (reader (Rules.unary (Rules.deeper below))))
    (hnext : ∀ e, Settles n (f e) (next e)) :
    Settles n (do enter; let e ← x; leave; f e)
      fun s => Reckon.andThen (Rules.nested (Rules.deeper (maxDepth - n)) reader s) next := by
  intro s
  rw [bind_apply]
  simp only [enter, Parser.enter]
  cases hroom : maxDepth - n with
  | zero =>
      rw [if_pos (by omega)]
      rfl
  | succ below =>
      rw [if_neg (by omega)]
      simp only [bind_apply, h below hroom s, Rules.nested, Rules.deeper]
      cases reader (Rules.unary (Rules.deeper below)) s with
      | ok result => exact hnext result.1 result.2
      | error stop =>
          simp only [settled, Reckon.andThen, Nat.add_assoc, Nat.add_comm 1]

lemma closing (opening : Token) (inner : Expr) :
    Settles n (Calling.closing opening inner) (Rules.closing opening inner) := by
  intro s
  have haccept :
      s.accept? [.rightParen] = if s.check .rightParen then some s.advance else none := by
    simp [Stream.accept?, Stream.check]
  rw [Calling.closing, bind_apply]
  simp only [current, Rules.closing, haccept]
  rw [bind_apply]
  simp only [expect, Parser.expect]
  cases s.check .rightParen with
  | false => rfl
  | true => exact node opening rfl s.advance.2

lemma unary {call : Rule → Calling Expr}
    (hprimary : Settles n (call .primary) (Rules.primary (Rules.deeper (maxDepth - n))))
    (hunary : ∀ below, maxDepth - n = below + 1 →
      Settles (n + 1) (call .unary) (Rules.unary (Rules.deeper below))) :
    Settles n (Calling.unary call) (Rules.unary (Rules.deeper (maxDepth - n))) := by
  intro s
  rw [Calling.unary, Rules.unary_eq, accept?_bind]
  cases s.accept? [.minus, .bang] with
  | none => exact hprimary s
  | some result => exact nested id hunary (fun e => node result.1 rfl) result.2

lemma constant (v : Value) :
    Settles n (Calling.constant v) fun s => .ok (.literal v, s.advance.2) :=
  fun _ => rfl

lemma carried : Settles n Calling.carried Rules.carried := by
  intro s
  simp only [Calling.carried, bind_apply, advance, Parser.advance, Rules.carried]
  cases s.advance.1.literal <;> rfl

lemma primary {call : Rule → Calling Expr} {deeper : Option Reader}
    (h : Settles n (call .grouping) (Rules.grouping deeper)) :
    Settles n (Calling.primary call) (Rules.primary deeper) := by
  intro s
  simp only [Calling.primary, bind_apply, current, Rules.primary]
  cases s.current.kind with
  | keyword word =>
      cases word with
      | trueWord => exact constant (.bool true) s
      | falseWord => exact constant (.bool false) s
      | nilWord => exact constant .nil s
      | _ => rfl
  | number => exact carried s
  | string => exact carried s
  | leftParen => exact h s
  | _ => rfl

lemma grouping {call : Rule → Calling Expr}
    (h : ∀ below, maxDepth - n = below + 1 →
      Settles (n + 1) (call .expression) (Rules.equality (Rules.unary (Rules.deeper below)))) :
    Settles n (Calling.grouping call) (Rules.grouping (Rules.deeper (maxDepth - n))) := by
  intro s
  rw [Calling.grouping, bind_apply, Rules.grouping_eq]
  exact nested Rules.equality h (closing s.advance.1) s.advance.2

end Settles

/-! ## Budgets that suffice -/

/-- How many calls lead from a rule to the next parentheses, the rule and theirs included. -/
def height : Rule → Nat
  | .expression => 8
  | .equality => 7
  | .comparison => 6
  | .term => 5
  | .factor => 4
  | .unary => 3
  | .primary => 2
  | .grouping => 1

lemma height_pos (r : Rule) : 0 < height r := by
  cases r <;> decide

lemma height_le (r : Rule) : height r ≤ height .expression := by
  cases r <;> decide

/-- **Calls come to an end.**  With a budget for the rules down to the next parentheses, and for all
rules once more with each level that there is room for, a rule does what reading by it does. -/
theorem settles_within {budget n : Nat} {r : Rule}
    (h : height r + height .expression * (maxDepth - n) ≤ budget) :
    Settles n (within budget r) (r.read (maxDepth - n)) := by
  induction budget generalizing n r with
  | zero =>
      have hpos := height_pos r
      omega
  | succ budget ih =>
      have hlower : ∀ r', height r' < height r →
          Settles n (within budget r') (r'.read (maxDepth - n)) :=
        fun r' hr => ih (by omega)
      -- a level of room more pays for all the rules above the next parentheses
      have hdeeper : ∀ r' below, maxDepth - n = below + 1 →
          Settles (n + 1) (within budget r') (r'.read below) := by
        intro r' below hbelow
        obtain rfl : maxDepth - (n + 1) = below := by omega
        have hr := height_pos r
        have hr' := height_le r'
        rw [hbelow, Nat.mul_succ] at h
        exact ih (by omega)
      cases r with
      | expression => exact hlower .equality (by decide)
      | equality => exact (hlower .comparison (by decide)).binary .equality
      | comparison => exact (hlower .term (by decide)).binary .comparison
      | term => exact (hlower .factor (by decide)).binary .term
      | factor => exact (hlower .unary (by decide)).binary .factor
      | unary => exact .unary (hlower .primary (by decide)) (hdeeper .unary)
      | primary => exact .primary (hlower .grouping (by decide))
      | grouping => exact .grouping (hdeeper .expression)

/-! ## Budgets that do not -/

/-- A level comes to nothing if its first operand does. -/
lemma binary_eq_none {level : Level} {operand : Calling Expr} {p : Parser}
    (h : operand p = none) : binary level operand p = none := by
  rw [binary, bind_apply, h]

/-- At an opening parenthesis each rule first calls the next lower one. -/
lemma within_eq_none_of_grouping {budget : Nat} {r : Rule} {s : Stream} {n : Nat}
    (hk : s.current.kind = .leftParen)
    (h : ∀ below, budget + 1 = below + height r → within below .grouping ⟨s, n⟩ = none) :
    within budget r ⟨s, n⟩ = none := by
  induction budget generalizing r with
  | zero => rfl
  | succ budget ih =>
      have hlower : ∀ r', height r = height r' + 1 → within budget r' ⟨s, n⟩ = none :=
        fun r' hr => ih fun below hbelow => h below (by omega)
      cases r with
      | expression => exact hlower .equality rfl
      | equality => exact binary_eq_none (hlower .comparison rfl)
      | comparison => exact binary_eq_none (hlower .term rfl)
      | term => exact binary_eq_none (hlower .factor rfl)
      | factor => exact binary_eq_none (hlower .unary rfl)
      | unary =>
          have hnone : s.accept? [.minus, .bang] = none := by simp [Stream.accept?, hk]
          show unary (within budget) ⟨s, n⟩ = none
          rw [unary, accept?_bind, hnone]
          exact hlower .primary rfl
      | primary =>
          show primary (within budget) ⟨s, n⟩ = none
          rw [primary, bind_apply]
          simp only [current, hk]
          exact hlower .grouping rfl
      | grouping => exact h (budget + 1) rfl

/-- An opening parenthesis. -/
def paren : Token := ⟨.leftParen, "(", none, 1⟩

/-- Parentheses one inside of the other need a call of every rule each, up to the one that cannot be
opened any more. -/
lemma within_parens_eq_none {room budget n : Nat} {s : Stream} (hroom : maxDepth - n = room)
    (hs : s.pending = List.replicate (room + 1) paren)
    (hbudget : budget < height .expression * (room + 1)) :
    within budget .expression ⟨s, n⟩ = none := by
  induction room generalizing budget n s with
  | zero =>
      have hk := congrArg Token.kind (Stream.current_eq_of_pending hs)
      refine within_eq_none_of_grouping hk fun below hbelow => ?_
      obtain rfl : below = 0 := by simp only [height] at hbudget hbelow; omega
      rfl
  | succ room ih =>
      have hk := congrArg Token.kind (Stream.current_eq_of_pending hs)
      refine within_eq_none_of_grouping hk fun below hbelow => ?_
      cases below with
      | zero => rfl
      | succ below =>
          have hinner : within below .expression ⟨s.advance.2, n + 1⟩ = none := by
            have hadvance := Stream.advance_of_pending hs rfl
            refine ih (by omega) (by rw [hadvance]; rfl) ?_
            simp only [height] at hbudget hbelow ⊢
            omega
          show grouping (within below) ⟨s, n⟩ = none
          rw [grouping, bind_apply]
          simp only [advance, Parser.advance, bind_apply, enter, Parser.enter]
          rw [if_neg (by omega)]
          simp only [hinner]

/-- **The depth of calls is bounded.**  There is a budget of calls inside of calls with which every
rule comes to an end on every stream of tokens, wherever ends of the input stand in it and however
many levels are open, and does to the parser and yields what reading by the rule does.  A budget
suffices for that exactly if it is no smaller. -/
theorem exists_budget_within :
    ∃ enough, ∀ budget, enough ≤ budget ↔
      ∀ (r : Rule) (p : Parser), within budget r p = some (p.read r) := by
  refine ⟨height .expression * (maxDepth + 1), fun budget => ⟨fun hle r p => ?_, fun hall => ?_⟩⟩
  · have hr := height_le r
    have hroom : maxDepth - p.nesting ≤ maxDepth := Nat.sub_le _ _
    have hbudget : height r + height .expression * (maxDepth - p.nesting) ≤ budget := by
      simp only [height] at hle hr ⊢
      omega
    rw [read_eq_settled]
    exact settles_within hbudget p.stream
  · by_contra hless
    let deep : Stream := ⟨List.replicate (maxDepth + 1) paren, Token.endAt 1, rfl⟩
    have hnone : within budget .expression ⟨deep, 0⟩ = none :=
      within_parens_eq_none (Nat.sub_zero _) rfl (Nat.lt_of_not_le hless)
    rw [hall] at hnone
    cases hnone

end Calling

end Reckon
