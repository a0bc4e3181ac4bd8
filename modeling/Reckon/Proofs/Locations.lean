import Mathlib.Data.List.DropRight
import Reckon.Proofs.Lexemes

/-!
# Where pieces stand

Lines are counted twice, and independently: scanning counts the line feeds of the pieces it has
passed, and showing a diagnostic looks a line up among the lines of the text.

**Pieces.**  `place` gives every piece all of the source that stands before it, so that a place in
the source is a text and not a number.  `locate` gives it the line on which it ends, and that is the
number of the line feeds up to its end (`locate_eq_map_place`), whichever pieces those are in.

**Lines.**  The line with the number of the line feeds before a point is the line through that
point: what is left of the last line before it, and what is there of the first line behind it
(`Text.line?_append`).
-/

namespace Reckon

/-! ## Lines of a text -/

namespace Text

/-- What stands behind the last line feed of a text. -/
def lastLine (text : List Char) : List Char :=
  text.rtakeWhile (· != '\n')

/-- What stands before the first line feed of a text. -/
def firstLine (text : List Char) : List Char :=
  text.takeWhile (· != '\n')

lemma lastLine_concat_feed (text : List Char) : lastLine (text ++ ['\n']) = [] := by
  simp [lastLine]

lemma lastLine_concat {c : Char} (hc : c ≠ '\n') (text : List Char) :
    lastLine (text ++ [c]) = lastLine text ++ [c] := by
  simp [lastLine, hc]

lemma lastLine_of_not_mem {text : List Char} (h : '\n' ∉ text) : lastLine text = text := by
  rw [lastLine, List.rtakeWhile_eq_self_iff]
  intro c hc
  rw [bne_iff_ne]
  rintro rfl
  exact h hc

/-- The last line of a text ends with the last line of what the text ends with. -/
lemma lastLine_suffix_append (a b : List Char) : lastLine b <:+ lastLine (a ++ b) := by
  rw [lastLine, lastLine, List.rtakeWhile, List.rtakeWhile, List.reverse_suffix,
    List.reverse_append, List.takeWhile_append]
  split
  · rename_i hlen
    rw [(List.takeWhile_prefix _).eq_of_length hlen]
    exact List.prefix_append _ _
  · exact List.prefix_refl _

@[simp] lemma lineFeeds_cons_feed (text : List Char) :
    lineFeeds ('\n' :: text) = lineFeeds text + 1 := by
  simp [lineFeeds]

@[simp] lemma lineFeeds_cons_of_ne {c : Char} (hc : c ≠ '\n') (text : List Char) :
    lineFeeds (c :: text) = lineFeeds text := by
  simp [lineFeeds, hc]

lemma lines_cons_feed (text : List Char) : lines ('\n' :: text) = [] :: lines text := by
  simp [lines, List.splitOn_cons_eq_if_modifyHead]

lemma lines_cons {c : Char} (hc : c ≠ '\n') (text : List Char) :
    lines (c :: text) = (lines text).modifyHead (c :: ·) := by
  simp [lines, List.splitOn_cons_eq_if_modifyHead, hc]

/-- A text has one line more than it has line feeds. -/
lemma length_lines (text : List Char) : (lines text).length = lineFeeds text + 1 := by
  induction text with
  | nil => simp [lines]
  | cons c text ih =>
      by_cases hc : c = '\n'
      · subst hc
        rw [lines_cons_feed, List.length_cons, ih, lineFeeds_cons_feed]
      · rw [lines_cons hc, List.length_modifyHead, ih, lineFeeds_cons_of_ne hc]

lemma lines_getElem?_zero (text : List Char) : (lines text)[0]? = some (firstLine text) := by
  induction text with
  | nil => simp [lines, firstLine]
  | cons c text ih =>
      by_cases hc : c = '\n'
      · subst hc
        simp [lines_cons_feed, firstLine]
      · rw [lines_cons hc]
        simp only [firstLine] at ih ⊢
        simp [ih, hc]

/-- The line through a point of a text.  The induction moves the point to the left, and only a line
feed that it crosses changes the number of the line. -/
lemma lines_getElem?_append (a b : List Char) :
    (lines (a ++ b))[lineFeeds a]? = some (lastLine a ++ firstLine b) := by
  induction a using List.reverseRecOn generalizing b with
  | nil => simpa [lastLine] using lines_getElem?_zero b
  | append_singleton a c ih =>
      by_cases hc : c = '\n'
      · subst hc
        have hsplit : lines (a ++ '\n' :: b) = lines a ++ lines b :=
          List.splitOn_append_cons_self a b
        have hfeeds : lineFeeds (a ++ ['\n']) = (lines a).length := by
          rw [length_lines, lineFeeds_append]
          rfl
        rw [List.append_assoc, List.singleton_append, hsplit, hfeeds,
          List.getElem?_append_right (Nat.le_refl _), Nat.sub_self, lines_getElem?_zero,
          lastLine_concat_feed, List.nil_append]
      · have hfeeds : lineFeeds (a ++ [c]) = lineFeeds a := by
          rw [lineFeeds_append, lineFeeds_cons_of_ne hc, lineFeeds_nil, Nat.add_zero]
        rw [List.append_assoc, List.singleton_append, hfeeds, ih, lastLine_concat hc]
        simp [firstLine, hc]

lemma line?_append (a b : List Char) :
    line? (a ++ b) (1 + lineFeeds a) = some (lastLine a ++ firstLine b) := by
  rw [line?, Nat.add_comm]
  exact lines_getElem?_append a b

end Text

/-! ## Located pieces -/

/-- A piece that means something has the form of a token. -/
lemma Segment.isToken_of_meaning? {piece : Segment} {meaning : Token.Kind × Option Value}
    (h : piece.meaning? = some meaning) : piece.form.isToken = true := by
  obtain ⟨form, text⟩ := piece
  cases form <;> first | rfl | cases h

/-- A piece with the form of a token is no fault. -/
lemma Segment.fault?_of_isToken {piece : Segment} (h : piece.form.isToken = true) :
    piece.fault? = none := by
  obtain ⟨form, text⟩ := piece
  cases form <;> first | rfl | cases h

/-- Of the pieces that are tokens only a string goes over several lines. -/
lemma Segment.Lexeme.feed_not_mem {form : Segment.Form} {text : List Char}
    (h : Segment.Lexeme form text) (htoken : form.isToken = true) (hform : form ≠ .string) :
    '\n' ∉ text := by
  cases h with
  | symbol hsymbol =>
      have hall : ∀ symbol ∈ Token.Kind.symbols, '\n' ∉ symbol.1 := by decide
      exact hall _ hsymbol
  | string _ => exact absurd rfl hform
  | whole _ hd => exact fun hmem => absurd (hd _ hmem) (by decide)
  | decimal _ hd _ hd' =>
      simp only [List.mem_append, List.mem_cons, not_or]
      refine ⟨fun hmem => ?_, by decide, fun hmem => ?_⟩
      · exact absurd (hd _ hmem) (by decide)
      · exact absurd (hd' _ hmem) (by decide)
  | word hc hr =>
      rw [List.mem_cons, not_or]
      refine ⟨?_, fun hmem => absurd (hr _ hmem) (by decide)⟩
      rintro rfl
      exact absurd hc (by decide)
  | _ => cases htoken

/-- Pieces behind others start on the line on which those end. -/
lemma locate_append (line : Nat) (a b : List Segment) :
    locate line (a ++ b) =
      locate line a ++ locate (line + Text.lineFeeds (a.flatMap Segment.text)) b := by
  induction a generalizing line with
  | nil => simp
  | cons piece a ih =>
      rw [List.cons_append, locate_cons, locate_cons, ih, List.cons_append, List.flatMap_cons,
        Text.lineFeeds_append, Nat.add_assoc]

/-- A token has the text and the line of its piece. -/
lemma Located.lexeme_of_token? {located : Located} {t : Token} (h : located.token? = some t) :
    t.lexeme = String.ofList located.segment.text ∧ t.line = located.line := by
  simp only [Located.token?, Option.map_eq_some_iff] at h
  obtain ⟨meaning, -, rfl⟩ := h
  exact ⟨rfl, rfl⟩

/-- A piece of a source and all of the source that stands before it. -/
structure Placed where
  before : List Char
  piece : Segment

/-- The source up to the end of a piece. -/
def Placed.upTo (x : Placed) : List Char :=
  x.before ++ x.piece.text

/-- The pieces with what stands before them, the first behind `before`. -/
def place (before : List Char) : List Segment → List Placed
  | [] => []
  | piece :: rest => ⟨before, piece⟩ :: place (before ++ piece.text) rest

/-- What stands before a piece is the text of the pieces before it. -/
lemma exists_of_mem_place {before : List Char} {pieces : List Segment} {x : Placed}
    (h : x ∈ place before pieces) :
    ∃ earlier later, pieces = earlier ++ x.piece :: later ∧
      x.before = before ++ earlier.flatMap Segment.text := by
  induction pieces generalizing before with
  | nil => simp [place] at h
  | cons piece pieces ih =>
      rw [place, List.mem_cons] at h
      rcases h with rfl | h
      · exact ⟨[], pieces, rfl, by simp⟩
      · obtain ⟨earlier, later, hsplit, hbefore⟩ := ih h
        refine ⟨piece :: earlier, later, by rw [hsplit, List.cons_append], ?_⟩
        rw [hbefore, List.flatMap_cons, List.append_assoc]

/-- A piece of a source stands where its place says, and can stand there. -/
lemma exists_of_mem_place_segments {source : List Char} {x : Placed}
    (h : x ∈ place [] (segments source)) :
    ∃ after, source = x.upTo ++ after ∧ x.piece.Fits after := by
  obtain ⟨earlier, later, hsplit, hbefore⟩ := exists_of_mem_place h
  obtain ⟨hsource, hlongest⟩ := decomposes_segments source
  refine ⟨later.flatMap Segment.text, ?_, (hlongest earlier x.piece later hsplit).2.1⟩
  rw [hsplit] at hsource
  simp [Placed.upTo, hbefore, ← hsource]

/-- A piece ends on the line that the line feeds up to its end give.  The induction moves the start
behind one piece after the other. -/
lemma locate_add_eq_map_place (line : Nat) (before : List Char) (pieces : List Segment) :
    locate (line + Text.lineFeeds before) pieces =
      (place before pieces).map fun x => ⟨x.piece, line + Text.lineFeeds x.upTo⟩ := by
  induction pieces generalizing before with
  | nil => rfl
  | cons piece pieces ih =>
      have hnext : line + Text.lineFeeds before + Text.lineFeeds piece.text =
          line + Text.lineFeeds (before ++ piece.text) := by
        rw [Text.lineFeeds_append, Nat.add_assoc]
      rw [locate_cons, place, List.map_cons, hnext, ih]
      rfl

lemma locate_eq_map_place (line : Nat) (pieces : List Segment) :
    locate line pieces =
      (place [] pieces).map fun x => ⟨x.piece, line + Text.lineFeeds x.upTo⟩ :=
  locate_add_eq_map_place line [] pieces

/-- Where a piece of a source stands in it. -/
lemma exists_of_mem_locate_segments {source : List Char} {located : Located}
    (h : located ∈ locate 1 (segments source)) :
    ∃ before after, source = before ++ located.segment.text ++ after ∧
      located.line = 1 + Text.lineFeeds (before ++ located.segment.text) ∧
      located.segment.Fits after := by
  rw [locate_eq_map_place] at h
  obtain ⟨x, hmem, rfl⟩ := List.mem_map.mp h
  obtain ⟨after, hsource, hfits⟩ := exists_of_mem_place_segments hmem
  exact ⟨x.before, after, hsource, rfl, hfits⟩

end Reckon
