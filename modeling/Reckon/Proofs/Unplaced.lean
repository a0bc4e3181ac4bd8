import Reckon.Proofs.Lookahead
import Reckon.Proofs.Written

/-!
# Lines do not change what a source comes to

A token keeps its line for diagnostics only.  Reading and evaluation never branch on it.

**Without lines.**  `unplaced` puts a token, an expression, a stream or a result on the first line.
Two lists of tokens differ in their lines only if they are the same without them.

**Reading.**  `Unplaces plain reader` says that the first reader does without lines what the second
does with them, so that lines can be taken away before reading or after it.  It is kept by each way
in which rules are built.  Where a rule puts a token or an expression it has read into a node, the
two readers differ in the lines of these, and for whole rules they are the same.

**Running.**  Tokens that differ in their lines only come to the same value, or to the same fault on
lines of their own (`run_eq_of_unplaced`).
-/

namespace Reckon

open Rules (Level)

/-! ## Without lines -/

/-- A token as if it were on the first line. -/
def Token.unplaced (t : Token) : Token :=
  { t with line := 1 }

/-- A diagnostic as if it were on the first line. -/
def Diagnostic.unplaced (d : Diagnostic) : Diagnostic :=
  { d with line := 1 }

/-- An expression as if all of it were on the first line. -/
def Expr.unplaced : Expr → Expr
  | .literal v => .literal v
  | .grouping inner => .grouping inner.unplaced
  | .unary operator operand => .unary operator.unplaced operand.unplaced
  | .binary left operator right => .binary left.unplaced operator.unplaced right.unplaced

/-- A stream as if all its tokens were on the first line. -/
def Stream.unplaced (s : Stream) : Stream :=
  ⟨s.pending.map Token.unplaced, s.final.unplaced, s.final_isEnd⟩

/-- What reading comes to as if all of it were on the first line. -/
def unplacedResult : Except Stop (Expr × Stream) → Except Stop (Expr × Stream)
  | .ok (e, rest) => .ok (e.unplaced, rest.unplaced)
  | .error ⟨d, rest, leftOpen⟩ => .error ⟨d.unplaced, rest.unplaced, leftOpen⟩

@[simp] lemma Expr.depth_unplaced (e : Expr) : e.unplaced.depth = e.depth := by
  induction e with
  | literal v => rfl
  | grouping inner ih => simp only [unplaced, depth, ih]
  | unary operator operand ih => simp only [unplaced, depth, ih]
  | binary left operator right ihl ihr => simp only [unplaced, depth, ihl, ihr]

namespace Stream

@[simp] lemma current_unplaced (s : Stream) : s.unplaced.current = s.current.unplaced := by
  cases hp : s.pending with
  | nil => simp [current, unplaced, hp]
  | cons t q => simp [current, unplaced, hp]

lemma atEnd_unplaced (s : Stream) : s.unplaced.atEnd = s.atEnd := by
  rw [atEnd, current_unplaced]
  rfl

/-- Whether a stream moves on depends on the kind of its first token, and so not on lines. -/
lemma advance_unplaced (s : Stream) :
    s.unplaced.advance = (s.advance.1.unplaced, s.advance.2.unplaced) := by
  cases hp : s.pending with
  | nil => simp [advance, unplaced, hp]
  | cons t q =>
      have hend : t.unplaced.isEnd = t.isEnd := rfl
      by_cases ht : t.isEnd
      · simp [advance, unplaced, hp, hend, ht]
      · simp [advance, unplaced, hp, hend, ht, withPending]

lemma accept?_unplaced (s : Stream) (kinds : List Token.Kind) :
    s.unplaced.accept? kinds =
      (s.accept? kinds).map fun (t, rest) => (t.unplaced, rest.unplaced) := by
  have hkind : s.current.unplaced.kind = s.current.kind := rfl
  simp only [accept?, atEnd_unplaced, current_unplaced, hkind, advance_unplaced]
  split <;> rfl

/-- Lines can be taken away from a list of tokens or from its stream. -/
lemma ofTokens_unplaced (tokens : List Token) :
    ofTokens (tokens.map Token.unplaced) = (ofTokens tokens).unplaced := by
  simp only [ofTokens, List.getLast?_map]
  cases tokens.getLast? with
  | none => rfl
  | some last =>
      have hkind : last.unplaced.kind = last.kind := rfl
      simp only [Option.map_some, hkind]
      split
      · simp only [unplaced, List.map_dropLast]
      · rfl

end Stream

/-! ## Reading -/

/-- The first reader does without lines what the second does with them. -/
def Unplaces (plain reader : Reader) : Prop :=
  ∀ s, plain s.unplaced = unplacedResult (reader s)

/-- The reader does the same without lines as with them. -/
def Blind (reader : Reader) : Prop :=
  Unplaces reader reader

lemma unplacedResult_andThen {first : Except Stop (Expr × Stream)} {plain next : Expr → Reader}
    (h : ∀ e, Unplaces (plain e.unplaced) (next e)) :
    andThen (unplacedResult first) plain = unplacedResult (andThen first next) := by
  cases first with
  | error stop => rfl
  | ok result => exact h result.1 result.2

lemma Unplaces.node (t : Token) (e : Expr) :
    Unplaces (Rules.node t.unplaced e.unplaced) (Rules.node t e) := by
  intro s
  simp only [Rules.node, Expr.depth_unplaced]
  split <;> rfl

lemma Unplaces.joining {level : Level} {operand : Reader} {l : Expr} {operator : Token} {r : Expr}
    (h : (Expr.binary l operator r).depth ≤ maxDepth →
      Unplaces (Rules.chain level operand (Expr.binary l operator r).unplaced)
        (Rules.chain level operand (.binary l operator r))) :
    Unplaces (Rules.joining level operand l.unplaced operator.unplaced r.unplaced)
      (Rules.joining level operand l operator r) := by
  intro s
  have hdepth := (Expr.binary l operator r).depth_unplaced
  simp only [Expr.unplaced] at hdepth h
  simp only [Rules.joining, hdepth]
  split
  · rfl
  · rename_i hle
    exact h (Nat.le_of_not_lt hle) s

lemma Unplaces.chain {operand : Reader} (h : Blind operand) (level : Level) (l : Expr) :
    Unplaces (Rules.chain level operand l.unplaced) (Rules.chain level operand l) := by
  induction l using Expr.growing_induction with
  | step l ih =>
      intro s
      rw [Rules.chain_eq, Rules.chain_eq, s.accept?_unplaced]
      cases s.accept? level.operators with
      | none => rfl
      | some result =>
          obtain ⟨operator, behind⟩ := result
          simp only [Option.map_some, h behind]
          exact unplacedResult_andThen fun r => joining (ih operator r)

lemma Unplaces.closing (opening : Token) (inner : Expr) :
    Unplaces (Rules.closing opening.unplaced inner.unplaced) (Rules.closing opening inner) := by
  intro s
  simp only [Rules.closing, s.accept?_unplaced]
  cases s.accept? [.rightParen] with
  | none =>
      simp only [Option.map_none, Stream.current_unplaced]
      rfl
  | some result => exact node opening (.grouping inner) result.2

namespace Blind

/-- A level from its operands, which are read with the same room. -/
lemma level {level : Level} {room : Nat} (h : Blind (level.operand.rule.read room)) :
    Blind ((Category.level level).rule.read room) := by
  intro s
  rw [Category.read_level, Rules.binary_eq, Rules.binary_eq, h s]
  exact unplacedResult_andThen (Unplaces.chain h level)

lemma expression {room : Nat} (h : Blind (Category.unary.rule.read room)) :
    Blind (Category.expression.rule.read room) :=
  level (level (level (level h)))

lemma nested {room : Nat} {rule : Reader → Reader}
    (h : ∀ below < room, Blind (rule (Rules.unary (Rules.deeper below)))) :
    Blind (Rules.nested (Rules.deeper room) rule) := by
  intro s
  cases room with
  | zero =>
      simp only [Rules.nested, Rules.deeper, Stream.current_unplaced]
      rfl
  | succ below =>
      simp only [Rules.nested, Rules.deeper, h below (Nat.lt_succ_self below) s]
      cases rule (Rules.unary (Rules.deeper below)) s <;> rfl

lemma grouping {room : Nat} (h : ∀ below < room, Blind (Rules.unary (Rules.deeper below))) :
    Blind (Rules.grouping (Rules.deeper room)) := by
  intro s
  have hinner : Blind (Rules.nested (Rules.deeper room) Rules.equality) :=
    nested fun below hbelow => expression (h below hbelow)
  rw [Rules.grouping_eq, Rules.grouping_eq, s.advance_unplaced, hinner s.advance.2]
  exact unplacedResult_andThen (Unplaces.closing s.advance.1)

lemma carried : Blind Rules.carried := by
  intro s
  have hliteral : s.advance.1.unplaced.literal = s.advance.1.literal := rfl
  simp only [Rules.carried, s.advance_unplaced, hliteral]
  cases s.advance.1.literal <;> rfl

lemma primary {room : Nat} (h : ∀ below < room, Blind (Rules.unary (Rules.deeper below))) :
    Blind (Rules.primary (Rules.deeper room)) := by
  intro s
  have hkind : s.current.unplaced.kind = s.current.kind := rfl
  simp only [Rules.primary, Stream.current_unplaced, hkind, s.advance_unplaced]
  split
  · rfl
  · rfl
  · rfl
  · exact carried s
  · exact carried s
  · exact grouping h s
  · rfl

lemma unary {room : Nat} (h : ∀ below < room, Blind (Rules.unary (Rules.deeper below))) :
    Blind (Rules.unary (Rules.deeper room)) := by
  intro s
  have hinner : Blind (Rules.nested (Rules.deeper room) id) := nested h
  rw [Rules.unary_eq, Rules.unary_eq, s.accept?_unplaced]
  cases s.accept? [.minus, .bang] with
  | none => exact primary h s
  | some result =>
      obtain ⟨operator, behind⟩ := result
      simp only [Option.map_some, hinner behind]
      exact unplacedResult_andThen fun operand => .node operator (.unary operator operand)

end Blind

lemma blind_unary (room : Nat) : Blind (Rules.unary (Rules.deeper room)) := by
  induction room using Nat.strongRecOn with
  | ind room ih => exact Blind.unary ih

/-- **Lines can be taken away before parsing or after it.** -/
theorem parse_unplaced (tokens : List Token) :
    parse (tokens.map Token.unplaced) =
      ((parse tokens).map Expr.unplaced).mapError Diagnostic.unplaced := by
  have hread : Rule.expression.read maxDepth (Stream.ofTokens (tokens.map Token.unplaced)) =
      unplacedResult (Rule.expression.read maxDepth (Stream.ofTokens tokens)) := by
    rw [Stream.ofTokens_unplaced]
    exact Blind.expression (blind_unary maxDepth) (Stream.ofTokens tokens)
  cases hplaced : Rule.expression.read maxDepth (Stream.ofTokens tokens) with
  | ok result =>
      rw [hplaced] at hread
      rw [parse_eq_ok_of_read hplaced, parse_eq_ok_of_read hread]
      rfl
  | error stop =>
      rw [hplaced] at hread
      rw [parse_eq_error_of_read hplaced, parse_eq_error_of_read hread]
      rfl

/-! ## Running -/

lemma Expr.bare_unplaced (e : Expr) : e.unplaced.bare = e.bare := by
  induction e with
  | literal v => rfl
  | grouping inner ih => exact ih
  | unary operator operand ih =>
      simp only [unplaced, bare, ih]
      rfl
  | binary left operator right ihl ihr =>
      simp only [unplaced, bare, ihl, ihr]
      rfl

lemma Expr.outcome_unplaced (e : Expr) : e.unplaced.outcome = e.outcome := by
  rw [← outcome_bare, bare_unplaced, outcome_bare]

/-- What tokens come to: a value, or what is wrong with them but not where. -/
def outcomeOf (tokens : List Token) : Except Fault Value :=
  (parse tokens >>= Expr.eval).mapError Diagnostic.fault

lemma outcomeOf_unplaced (tokens : List Token) :
    outcomeOf (tokens.map Token.unplaced) = outcomeOf tokens := by
  rw [outcomeOf, outcomeOf, parse_unplaced]
  cases parse tokens with
  | error d => rfl
  | ok e => exact e.outcome_unplaced

/-- Results of the same outcome are the same value, or one fault each on a line of its own. -/
lemma results_of_mapError_fault {x x' : Except Diagnostic Value}
    (h : x'.mapError Diagnostic.fault = x.mapError Diagnostic.fault) :
    (∀ v, x.mapError ([·]) = .ok v → x'.mapError ([·]) = .ok v) ∧
      ∀ ds, x.mapError ([·]) = .error ds → ∃ fault line line',
        ds = [⟨fault, line⟩] ∧ x'.mapError ([·]) = .error [⟨fault, line'⟩] := by
  cases x with
  | ok v =>
      cases x' with
      | ok v' =>
          obtain rfl : v' = v := Except.ok.inj h
          exact ⟨fun _ hv => hv, fun _ hds => nomatch hds⟩
      | error d' => cases h
  | error d =>
      cases x' with
      | ok v' => cases h
      | error d' =>
          have hfault : d'.fault = d.fault := Except.error.inj h
          refine ⟨fun _ hv => (nomatch hv), fun ds hds => ?_⟩
          obtain rfl : [d] = ds := Except.error.inj hds
          exact ⟨d.fault, d.line, d'.line, rfl, hfault ▸ rfl⟩

/-- **Sources whose tokens differ in their lines only come to the same.**  If one has a value then
the other has it too, and otherwise both have one fault, each on a line of its own. -/
theorem run_eq_of_unplaced {source source' : String} {tokens tokens' : List Token}
    (h : scan source = ⟨tokens, []⟩) (h' : scan source' = ⟨tokens', []⟩)
    (heq : tokens'.map Token.unplaced = tokens.map Token.unplaced) :
    (∀ v, run source = .ok v → run source' = .ok v) ∧
      ∀ ds, run source = .error ds → ∃ fault line line',
        ds = [⟨fault, line⟩] ∧ run source' = .error [⟨fault, line'⟩] := by
  have houtcome : outcomeOf tokens' = outcomeOf tokens := by
    rw [← outcomeOf_unplaced tokens', heq, outcomeOf_unplaced]
  rw [run_of_scan h, run_of_scan h']
  exact results_of_mapError_fault houtcome

end Reckon
