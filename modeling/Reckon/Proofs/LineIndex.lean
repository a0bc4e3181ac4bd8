import Reckon.Proofs.Locations

/-!
# Lines by their numbers

Looking lines up by their numbers loses nothing of a text.

**Numbers.**  A text has a line for every number from one up to one more than it has line feeds, and
for no other (`Text.isSome_line?_iff`).  A text without line feeds has one line, even if the text is
empty, and behind a line feed at the very end there is one more line, which is empty.

**Lines.**  No line holds a line feed, and the lines looked up one after the other are all lines in
their order (`Text.map_line?_range'`), so that with the line feeds put back they are the text.
-/

namespace Reckon.Text

lemma feed_not_mem_of_mem_lines {text line : List Char} (h : line ∈ lines text) : '\n' ∉ line := by
  induction text generalizing line with
  | nil =>
      obtain rfl := List.mem_singleton.mp h
      exact List.not_mem_nil
  | cons c text ih =>
      by_cases hc : c = '\n'
      · subst hc
        rw [lines_cons_feed, List.mem_cons] at h
        rcases h with rfl | h
        · exact List.not_mem_nil
        · exact ih h
      · rw [lines_cons hc] at h
        cases hlines : lines text with
        | nil => simp [hlines] at h
        | cons first rest =>
            rw [hlines, List.modifyHead_cons, List.mem_cons] at h
            rw [hlines] at ih
            rcases h with rfl | h
            · exact List.not_mem_cons_of_ne_of_not_mem (Ne.symm hc) (ih List.mem_cons_self)
            · exact ih (List.mem_cons_of_mem _ h)

lemma feed_not_mem_of_line? {text line : List Char} {number : Nat}
    (h : line? text number = some line) : '\n' ∉ line := by
  cases number with
  | zero => cases h
  | succ n => exact feed_not_mem_of_mem_lines (List.mem_of_getElem? h)

/-- Lines have the numbers from one on, and there is one line more than there are line feeds. -/
lemma isSome_line?_iff (text : List Char) (number : Nat) :
    (line? text number).isSome = true ↔ 1 ≤ number ∧ number ≤ 1 + lineFeeds text := by
  cases number with
  | zero => simp [line?, numbered?]
  | succ n =>
      have hlength := length_lines text
      rw [line?, numbered?, Option.isSome_iff_ne_none, ne_eq, List.getElem?_eq_none_iff]
      omega

/-- Looked up one after the other, the lines are all lines in their order. -/
lemma map_line?_range' (text : List Char) :
    (List.range' 1 (1 + lineFeeds text)).map (line? text) = (lines text).map some := by
  apply List.ext_getElem
  · simp [length_lines, Nat.add_comm]
  · intro i hi hi'
    rw [List.length_map] at hi'
    simp [line?, numbered?, Nat.add_comm 1 i, List.getElem?_eq_getElem hi']

/-- **Lines can be looked up, and nothing is lost.**  A text has a line with a number exactly if the
number is at least one and at most one more than there are line feeds.  No line holds a line feed,
and the lines with the numbers from the first to the last, joined by line feeds, are the text. -/
theorem line?_indexes (text : List Char) :
    (∀ number, (line? text number).isSome = true ↔
      1 ≤ number ∧ number ≤ 1 + lineFeeds text) ∧
    (∀ number, ∀ line ∈ line? text number, '\n' ∉ line) ∧
    ∃ all, (List.range' 1 (1 + lineFeeds text)).map (line? text) = all.map some ∧
      ['\n'].intercalate all = text := by
  refine ⟨isSome_line?_iff text, ?_, lines text, map_line?_range' text, intercalate_lines text⟩
  intro number line hline
  exact feed_not_mem_of_line? hline

/-- A text with an empty line at either end and one in the middle. -/
def bordered : List Char :=
  ['\n', 'a', '\n', '\n']

/-- The empty lines count, and there is none behind the last. -/
theorem line?_bordered :
    (line? bordered 1 = some [] ∧ line? bordered 2 = some ['a'] ∧ '\n' ∉ ['a'] ∧
      line? bordered 4 = some []) ∧
    (line? bordered 5).isSome = false := by
  obtain ⟨hnumbers, hfeeds, -⟩ := line?_indexes bordered
  refine ⟨⟨rfl, rfl, hfeeds 2 ['a'] rfl, rfl⟩, ?_⟩
  rw [Bool.eq_false_iff, ne_eq, hnumbers]
  decide

end Reckon.Text
