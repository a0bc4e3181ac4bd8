import Reckon.Proofs.Locations

/-!
# Scanning goes line by line

A source in which everything is closed can be scanned by itself, and what stands behind it on
further lines by itself.

**One piece.**  A line feed inside a piece is inside a string or a comment, and what stands before
the line feed is then never closed (`Segment.Lexeme.exists_open_of_feed`).  So a closed piece that
is the longest at its start remains the longest if a line feed and anything else is put behind the
source (`Segment.Longest.append_feed`).

**All pieces.**  The pieces of both sources are the pieces of the whole, with the line feed between
them (`segments_append_feed`).  The pieces of the second are as many lines further down as the first
has lines.
-/

namespace Reckon

/-! ## One piece -/

namespace Segment

/-- What stands before a line feed is before what holds none. -/
lemma prefix_of_append_eq {body close a m : List Char} (h : body ++ close = a ++ '\n' :: m)
    (hclose : '\n' ∉ close) : a <+: body := by
  rcases List.append_eq_append_iff.mp h with ⟨x, hbody, hm⟩ | ⟨x, hbody, hm⟩
  · exact absurd (by simp [hm]) hclose
  · exact ⟨x, hbody.symm⟩

/-- Where a piece goes over several lines, what it has before a line feed is never closed. -/
lemma Lexeme.exists_open_of_feed {form : Form} {text a m : List Char} (h : Lexeme form text)
    (ha : a ≠ []) (htext : text = a ++ '\n' :: m) :
    ∃ unclosed : Form, unclosed.isOpen = true ∧ Lexeme unclosed a := by
  have hmem : '\n' ∈ text := by simp [htext]
  obtain ⟨first, a, rfl⟩ := List.exists_cons_of_ne_nil ha
  cases h with
  | symbol hsymbol =>
      have hall : ∀ symbol ∈ Token.Kind.symbols, '\n' ∉ symbol.1 := by decide
      exact absurd hmem (hall _ hsymbol)
  | string hbody =>
      obtain ⟨rfl, htail⟩ := List.cons.inj htext
      have hpre := prefix_of_append_eq htail (by decide)
      exact ⟨.openString, rfl, .openString fun hquote => hbody (hpre.subset hquote)⟩
  | whole _ hd => exact absurd (hd _ hmem) (by decide)
  | decimal _ hd _ hd' =>
      simp only [List.mem_append, List.mem_cons] at hmem
      rcases hmem with hmem | hmem | hmem
      · exact absurd (hd _ hmem) (by decide)
      · exact absurd hmem (by decide)
      · exact absurd (hd' _ hmem) (by decide)
  | word _ hr =>
      obtain ⟨-, rfl⟩ := List.cons.inj htext
      exact absurd (hr '\n' (by simp)) (by decide)
  | blank _ => simp at htext
  | lineComment hbody =>
      simp only [List.mem_cons] at hmem
      rcases hmem with hmem | hmem | hmem
      · exact absurd hmem (by decide)
      · exact absurd hmem (by decide)
      · exact absurd hmem hbody
  | @blockComment body hbody =>
      obtain ⟨rfl, htail⟩ := List.cons.inj htext
      cases a with
      | nil => simp at htail
      | cons star a =>
          obtain ⟨rfl, hbehind⟩ := List.cons.inj htail
          have hpre := prefix_of_append_eq hbehind (by decide)
          refine ⟨.openComment, rfl, .openComment fun hclose => hbody ?_⟩
          exact hclose.trans (hpre.trans (List.prefix_append body ['*'])).isInfix
  | stray _ => simp at htext
  | openString hbody =>
      obtain ⟨rfl, rfl⟩ := List.cons.inj htext
      exact ⟨.openString, rfl, .openString fun hquote => hbody (by simp [hquote])⟩
  | openComment hbody =>
      obtain ⟨rfl, htail⟩ := List.cons.inj htext
      cases a with
      | nil => simp at htail
      | cons star a =>
          obtain ⟨rfl, rfl⟩ := List.cons.inj htail
          refine ⟨.openComment, rfl, .openComment fun hclose => hbody ?_⟩
          exact hclose.trans (List.prefix_append a _).isInfix

/-- A longest piece is the first of its source. -/
lemma Longest.segments_eq {piece : Segment} {rest : List Char} (h : piece.Longest rest) :
    segments (piece.text ++ rest) = piece :: segments rest := by
  obtain ⟨c, tail, htext⟩ := List.exists_cons_of_ne_nil h.1.lexeme.text_ne_nil
  have hs : piece.text ++ rest = c :: (tail ++ rest) := by rw [htext, List.cons_append]
  rw [hs, segments_cons, (longest_iff_take hs).mp h]

/-- A closed piece does not grow by what stands behind a line feed behind its source.  A longer one
would go beyond the line feed, and all of the source would be an open piece. -/
lemma Longest.append_feed {piece : Segment} {rest : List Char} (h : piece.Longest rest)
    (hclosed : piece.form.isOpen = false) (b : List Char) : piece.Longest (rest ++ '\n' :: b) := by
  have hne := h.1.lexeme.text_ne_nil
  refine ⟨h.1.lexeme.fits hclosed _, fun other rest' heq hfits => ?_⟩
  rw [← List.append_assoc] at heq
  rcases List.append_eq_append_iff.mp heq with ⟨m, hsource, hrest'⟩ | ⟨m, hother, hfeed⟩
  · have hlast : other.form.isOpen = true → m = [] := by
      intro hopen
      simp [hfits.last hopen] at hrest'
    exact h.2 other m hsource.symm ⟨hfits.lexeme, hlast⟩
  · cases m with
    | nil => exact h.2 other [] (by simpa using hother) ⟨hfits.lexeme, fun _ => rfl⟩
    | cons feed m =>
        obtain ⟨rfl, -⟩ := List.cons.inj hfeed
        obtain ⟨unclosed, hopen, hlex⟩ := hfits.lexeme.exists_open_of_feed (by simp [hne]) hother
        obtain ⟨c, tail, htext⟩ := List.exists_cons_of_ne_nil hne
        have hs : piece.text ++ rest = c :: (tail ++ rest) := by rw [htext, List.cons_append]
        have hwhole : Fits ⟨unclosed, piece.text ++ rest⟩ [] := ⟨hlex, fun _ => rfl⟩
        have htake := (longest_iff_take hs).mp h
        rcases hwhole.cutsAtLeast (by simpa using hs) with heq' | ⟨hlong, -⟩
        · rw [htake, Prod.mk.injEq] at heq'
          rw [heq'.1, hopen] at hclosed
          exact Bool.noConfusion hclosed
        · simp only [htake, List.length_append] at hlong
          omega

end Segment

/-! ## All pieces -/

/-- A line feed behind a source in which everything is closed is a piece of its own, and what stands
behind it is cut up as if it stood alone. -/
lemma Decomposes.segments_append_feed {source : List Char} {pieces : List Segment}
    (h : Decomposes source pieces) (hclosed : ∀ piece ∈ pieces, piece.form.isOpen = false)
    (b : List Char) :
    segments (source ++ '\n' :: b) = pieces ++ ⟨.blank, ['\n']⟩ :: segments b := by
  induction pieces generalizing source with
  | nil =>
      obtain ⟨rfl, -⟩ := h
      rw [List.flatMap_nil, List.nil_append, List.nil_append, segments_cons,
        Segment.take_of_isSeparator rfl]
  | cons piece pieces ih =>
      rw [List.forall_mem_cons] at hclosed
      have hlongest := (h.2 [] piece pieces rfl).2.append_feed hclosed.1 b
      have hsource : piece.text ++ pieces.flatMap Segment.text = source := h.1
      rw [← hsource, List.append_assoc, hlongest.segments_eq, ih h.tail hclosed.2,
        List.cons_append]

/-! ## Further down -/

/-- A token a number of lines further down. -/
def Token.below (n : Nat) (t : Token) : Token :=
  { t with line := t.line + n }

/-- A diagnostic a number of lines further down. -/
def Diagnostic.below (n : Nat) (d : Diagnostic) : Diagnostic :=
  { d with line := d.line + n }

/-- A piece a number of lines further down. -/
def Located.below (n : Nat) (located : Located) : Located :=
  { located with line := located.line + n }

/-- Pieces that start further down end further down. -/
lemma locate_below (line n : Nat) (pieces : List Segment) :
    locate (line + n) pieces = (locate line pieces).map (Located.below n) := by
  induction pieces generalizing line with
  | nil => rfl
  | cons piece pieces ih =>
      rw [locate_cons, locate_cons, Nat.add_right_comm, ih, List.map_cons]
      rfl

lemma Located.token?_below (n : Nat) (located : Located) :
    (located.below n).token? = located.token?.map (Token.below n) := by
  simp only [Located.token?, Option.map_map]
  rfl

lemma Located.diagnostic?_below (n : Nat) (located : Located) :
    (located.below n).diagnostic? = located.diagnostic?.map (Diagnostic.below n) := by
  simp only [Located.diagnostic?, Option.map_map]
  rfl

/-! ## Sources -/

/-- Where scanning reports nothing that is never closed, no piece is open. -/
lemma isOpen_eq_false_of_mem_segments {source : String}
    (h : ∀ d ∈ (scan source).diagnostics,
      d.fault ≠ .unterminatedString ∧ d.fault ≠ .unterminatedComment)
    {piece : Segment} (hpiece : piece ∈ segments source.toList) : piece.form.isOpen = false := by
  rw [← map_segment_locate 1 (segments source.toList)] at hpiece
  obtain ⟨located, hmem, rfl⟩ := List.mem_map.mp hpiece
  have hfault : ∀ fault, located.segment.fault? = some fault →
      fault ≠ .unterminatedString ∧ fault ≠ .unterminatedComment := by
    intro fault hfault
    exact h ⟨fault, located.line⟩ (List.mem_filterMap.mpr ⟨located, hmem, by
      simp [Located.diagnostic?, hfault]⟩)
  cases hform : located.segment.form with
  | openString => exact absurd rfl (hfault .unterminatedString (by simp [Segment.fault?, hform])).1
  | openComment =>
      exact absurd rfl (hfault .unterminatedComment (by simp [Segment.fault?, hform])).2
  | _ => rfl

/-- What the pieces of two sources yield, the second on the lines below the first. -/
lemma filterMap_locate_append_feed {α : Type} {yielded : Located → Option α} {down : Nat → α → α}
    (hdown : ∀ n located, (yielded (Located.below n located)) = (yielded located).map (down n))
    (hblank : ∀ line, yielded ⟨⟨.blank, ['\n']⟩, line⟩ = none) {a : List Char}
    (hclosed : ∀ piece ∈ segments a, piece.form.isOpen = false) (b : List Char) :
    (locate 1 (segments (a ++ '\n' :: b))).filterMap yielded =
      (locate 1 (segments a)).filterMap yielded ++
        ((locate 1 (segments b)).filterMap yielded).map (down (1 + Text.lineFeeds a)) := by
  have hline : 1 + Text.lineFeeds a + Text.lineFeeds ['\n'] = 1 + (1 + Text.lineFeeds a) :=
    Nat.add_comm _ 1
  rw [(decomposes_segments a).segments_append_feed hclosed, locate_append, flatMap_text_segments,
    locate_cons, hline, locate_below, List.filterMap_append, List.filterMap_cons_none (hblank _),
    List.filterMap_map, List.map_filterMap]
  simp only [Function.comp_def, hdown]

/-- **Scanning goes line by line.**  Behind a source in which every string and comment is closed,
and a line feed, another source has the tokens and the faults that it has by itself, on lines
further down, and takes nothing away from those of the first but the end of the input. -/
theorem scan_append_feed (a b : String)
    (h : ∀ d ∈ (scan a).diagnostics,
      d.fault ≠ .unterminatedString ∧ d.fault ≠ .unterminatedComment) :
    (scan (a ++ "\n" ++ b)).tokens = (scan a).tokens.dropLast ++
        (scan b).tokens.map (Token.below (1 + Text.lineFeeds a.toList)) ∧
      (scan (a ++ "\n" ++ b)).diagnostics = (scan a).diagnostics ++
        (scan b).diagnostics.map (Diagnostic.below (1 + Text.lineFeeds a.toList)) := by
  have hclosed : ∀ piece ∈ segments a.toList, piece.form.isOpen = false :=
    fun piece hpiece => isOpen_eq_false_of_mem_segments h hpiece
  have htext : (a ++ "\n" ++ b).toList = a.toList ++ '\n' :: b.toList := by simp
  have hend : Token.endAt (1 + Text.lineFeeds (a.toList ++ '\n' :: b.toList)) =
      (Token.endAt (1 + Text.lineFeeds b.toList)).below (1 + Text.lineFeeds a.toList) := by
    have hcount : 1 + Text.lineFeeds (a.toList ++ '\n' :: b.toList) =
        1 + Text.lineFeeds b.toList + (1 + Text.lineFeeds a.toList) := by
      rw [Text.lineFeeds_append, Text.lineFeeds_cons_feed]
      omega
    rw [hcount]
    rfl
  constructor
  · simp only [scan, htext, List.dropLast_concat, List.map_append, List.map_cons, List.map_nil,
      hend]
    rw [filterMap_locate_append_feed Located.token?_below (fun _ => rfl) hclosed,
      List.append_assoc]
  · simp only [scan, htext]
    exact filterMap_locate_append_feed Located.diagnostic?_below (fun _ => rfl) hclosed b.toList

/-- A string over two lines, a stray character, and an exclamation mark at the very end. -/
def stringAndBang : String := "\"\n\"@!"

/-- An equals sign, and a comment that is never closed. -/
def equalAndOpen : String := "=/*"

/-- The exclamation mark and the equals sign stay apart, and all that comes from the second source
is two lines further down. -/
theorem scan_stringAndBang_feed :
    (∀ d ∈ (scan stringAndBang).diagnostics,
      d.fault ≠ .unterminatedString ∧ d.fault ≠ .unterminatedComment) ∧
    (scan (stringAndBang ++ "\n" ++ equalAndOpen)).tokens =
      [⟨.string, "\"\n\"", some (.string "\n"), 2⟩, ⟨.bang, "!", none, 2⟩,
        ⟨.equal, "=", none, 3⟩, Token.endAt 3] ∧
    (scan (stringAndBang ++ "\n" ++ equalAndOpen)).diagnostics =
      [⟨.unexpectedCharacter "@", 2⟩, ⟨.unterminatedComment, 3⟩] := by
  have hfirst : scan stringAndBang =
      ⟨[⟨.string, "\"\n\"", some (.string "\n"), 2⟩, ⟨.bang, "!", none, 2⟩, Token.endAt 2],
        [⟨.unexpectedCharacter "@", 2⟩]⟩ := by decide +kernel
  have hsecond : scan equalAndOpen =
      ⟨[⟨.equal, "=", none, 1⟩, Token.endAt 1], [⟨.unterminatedComment, 1⟩]⟩ := by decide +kernel
  have hclosed : ∀ d ∈ (scan stringAndBang).diagnostics,
      d.fault ≠ .unterminatedString ∧ d.fault ≠ .unterminatedComment := by
    rw [hfirst]
    decide
  obtain ⟨htokens, hdiagnostics⟩ := scan_append_feed stringAndBang equalAndOpen hclosed
  rw [htokens, hdiagnostics, hfirst, hsecond]
  exact ⟨hfirst ▸ hclosed, rfl, rfl⟩

end Reckon
