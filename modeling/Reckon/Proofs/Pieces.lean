import Mathlib.Tactic.Common
import Reckon.Scan

/-!
# Pieces one behind the other

Pieces, and the lines on which they end, are collected from the front, which keeps the recursion
flat.  Read from the front they are plain recursions: the first piece, and then the pieces of what
is left (`segments_cons`), on the line on which the first piece has ended (`locate_cons`).  All
later proofs start from these, and none opens the collecting functions.

Nothing is lost on the way: the pieces together are the source (`flatMap_text_segments`), and lines
joined by line feeds are the text (`Text.intercalate_lines`).
-/

namespace Reckon

/-! ## Lines -/

namespace Text

/-- The lines joined by line feeds are the text again. -/
lemma intercalate_lines (text : List Char) : ['\n'].intercalate (lines text) = text :=
  List.intercalate_splitOn '\n'

@[simp] lemma lineFeeds_nil : lineFeeds [] = 0 := rfl

@[simp] lemma lineFeeds_append (a b : List Char) :
    lineFeeds (a ++ b) = lineFeeds a + lineFeeds b :=
  List.count_append

end Text

/-! ## Pieces -/

/-- Pieces found earliest come first in the result and do not change the others. -/
lemma segmentsInto_append (found earlier : List Segment) (source : List Char) :
    segmentsInto (found ++ earlier) source = earlier.reverse ++ segmentsInto found source := by
  fun_induction segmentsInto found source with
  | case1 found => simp [segmentsInto]
  | case2 found c rest ih => rw [segmentsInto, ← ih, List.cons_append]

@[simp] lemma segments_nil : segments [] = [] := by
  simp [segments, segmentsInto]

/-- The first piece, then the pieces of what it leaves. -/
lemma segments_cons (c : Char) (rest : List Char) :
    segments (c :: rest) = (Segment.take c rest).1 :: segments (Segment.take c rest).2 := by
  rw [segments, segmentsInto]
  exact segmentsInto_append [] [(Segment.take c rest).1] (Segment.take c rest).2

/-- The pieces of a source, one after the other, are the source.  The induction is on its length,
since a piece may take any part of it. -/
lemma flatMap_text_segments (source : List Char) :
    (segments source).flatMap Segment.text = source := by
  induction hlength : source.length using Nat.strongRecOn generalizing source with
  | ind n ih =>
      cases source with
      | nil => simp
      | cons c rest =>
          have hshorter := Segment.length_take_lt c rest
          rw [segments_cons, List.flatMap_cons, ih _ (hlength ▸ hshorter) _ rfl,
            Segment.take_append]

/-! ## Lines of pieces -/

lemma locateInto_eq (found : List Located) (line : Nat) (pieces : List Segment) :
    locateInto found line pieces = found.reverse ++ locate line pieces := by
  induction pieces generalizing found line with
  | nil => simp [locateInto, locate]
  | cons piece rest ih =>
      rw [locate, locateInto, locateInto, ih, ih]
      simp

@[simp] lemma locate_nil (line : Nat) : locate line [] = [] := rfl

/-- A piece ends as many lines below its start as it holds line feeds, and the next starts there. -/
lemma locate_cons (line : Nat) (piece : Segment) (rest : List Segment) :
    locate line (piece :: rest) =
      ⟨piece, line + Text.lineFeeds piece.text⟩ ::
        locate (line + Text.lineFeeds piece.text) rest := by
  rw [locate, locateInto, locateInto_eq]
  rfl

end Reckon
