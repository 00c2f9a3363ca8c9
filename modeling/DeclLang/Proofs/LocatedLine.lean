import DeclLang.Proofs.FirstUnreadable
import DeclLang.Proofs.ViewerSession

/-!
# Locations and lines

A text before an offset consists of whole lines, each with its newline, and the front of one more
line. As many lines are above the location, and its column is behind as many characters as the front
has; the source pane adds up the bytes of the same lines. So the location of an offset leads back to
the offset, and locations are in the order of their offsets.

After a lexical error the source pane marks the line with the number of the error. The character at
which the error lies is no blank, so it stands in that line as it is shown, in front of the newline
and of the carriage return that is dropped.
-/

namespace DeclLang

namespace Text

/-- A character boundary is the end of a first part. -/
theorem exists_append_of_isBoundary {s : Text} {offset : Nat} (h : s.isBoundary offset) :
    ∃ a b, s = a ++ b ∧ a.byteSize = offset :=
  ⟨_, _, (takeBytes_append_dropBytes s offset).symm, beq_iff_eq.1 h⟩

/-- A text is a line by itself or a line, a newline and a text below it. -/
theorem eq_line_or (s : Text) :
    '\n' ∉ s ∨ ∃ line rest, s = line ++ '\n' :: rest ∧ '\n' ∉ line := by
  by_cases h : '\n' ∈ s
  · exact .inr (List.eq_append_cons_of_mem h)
  · exact .inl h

/-- A line takes no part in the search for a newline. -/
theorem takeWhile_line_append {line : Text} (h : '\n' ∉ line) (s : Text) :
    (line ++ s).takeWhile (· ≠ '\n') = line ++ s.takeWhile (· ≠ '\n') := by
  refine List.takeWhile_append_of_pos fun c hc => ?_
  simpa using ne_of_mem_of_not_mem hc h

/-- A newline separates the first line of a text from the others. -/
theorem splitLines_append_newline {line : Text} (h : '\n' ∉ line) (s : Text) :
    splitLines (line ++ '\n' :: s) = line :: splitLines s := by
  rw [splitLines, splitLines, List.splitOn_eq_splitOnP, List.splitOn_eq_splitOnP]
  refine List.splitOnP_append_cons_of_forall_mem (fun c hc => ?_) '\n' rfl s
  simpa using ne_of_mem_of_not_mem hc h

/-- A line loses no more than what is behind a character that is no carriage return. -/
theorem exists_dropReturn_append_cons (s : Text) {c : Char} (hc : c ≠ '\r') (t : Text) :
    ∃ t', dropReturn (s ++ c :: t) = s ++ c :: t' := by
  unfold dropReturn
  split
  · rename_i hlast
    have ht : t ≠ [] := by
      rintro rfl
      rw [List.getLast?_concat] at hlast
      exact hc (Option.some.inj hlast)
    exact ⟨t.dropLast, by rw [List.dropLast_append_cons, List.dropLast_cons_of_ne_nil ht]⟩
  · exact ⟨t, rfl⟩

/-- The first line of a text goes up to its first newline. -/
theorem head?_splitLines (s : Text) : (splitLines s).head? = some (s.takeWhile (· ≠ '\n')) := by
  induction s with
  | nil => rfl
  | cons c s ih =>
    rw [splitLines, List.splitOn_eq_splitOnP] at ih ⊢
    rw [List.splitOnP_cons_eq_if_modifyHead]
    by_cases hc : c = '\n'
    · simp [hc]
    · simp [hc, ih]

end Text

namespace Location

/-- The order of places in a text: by lines, and within a line by columns. -/
def Precedes (l l' : Location) : Prop :=
  l.line < l'.line ∨ l.line = l'.line ∧ l.column < l'.column

/-- Behind characters of the same line the column is further right. -/
theorem after_append_of_newline_notMem {w : Text} (h : '\n' ∉ w) (a : Text) :
    after (a ++ w) = { after a with column := (after a).column + w.length } := by
  have hline : (a ++ w).count '\n' = a.count '\n' := by
    rw [List.count_append, List.count_eq_zero_of_not_mem h, Nat.add_zero]
  have hcolumn : (a ++ w).reverse.takeWhile (· ≠ '\n') =
      w.reverse ++ a.reverse.takeWhile (· ≠ '\n') := by
    rw [List.reverse_append, List.takeWhile_append_of_pos]
    intro c hc
    simpa using ne_of_mem_of_not_mem (List.mem_reverse.1 hc) h
  rw [after, hline, hcolumn, List.length_append, List.length_reverse]
  simp [after, Nat.add_comm, Nat.add_left_comm]

/-- A place further on comes later. -/
theorem precedes_after_append (a : Text) {w : Text} (hw : w ≠ []) :
    (after a).Precedes (after (a ++ w)) := by
  rcases w.eq_line_or with hline | ⟨line, rest, rfl, -⟩
  · right
    rw [after_append_of_newline_notMem hline]
    exact ⟨rfl, Nat.lt_add_of_pos_right (List.length_pos_iff.2 hw)⟩
  · left
    rw [← List.append_assoc, after_append_newline]
    simp only [after, below, List.count_append]
    omega

/-- Of two offsets the smaller one has the earlier location. -/
theorem precedes_atOffset {source : Text} {o o' : Nat} (ho : source.isBoundary o)
    (ho' : source.isBoundary o') (h : o < o') :
    (atOffset source o).Precedes (atOffset source o') := by
  obtain ⟨a, b, rfl, rfl⟩ := Text.exists_append_of_isBoundary ho
  obtain ⟨a', b', hparts, rfl⟩ := Text.exists_append_of_isBoundary ho'
  obtain ⟨w, rfl, -⟩ | ⟨w, rfl, -⟩ := List.append_eq_append_iff.1 hparts
  · have hw : w ≠ [] := by
      rintro rfl
      simp at h
    rw [atOffset_append, hparts, atOffset_append]
    exact precedes_after_append a hw
  · simp only [Text.byteSize_append] at h
    omega

/-- Each offset has no location but the one at it. -/
theorem eq_atOffset_of_ofOffset? {source : Text} {o : Nat} {l : Location}
    (h : ofOffset? source o = some l) : l = atOffset source o := by
  rw [ofOffset?, Option.ite_none_right_eq_some] at h
  exact (Option.some.inj h.2).symm

/-- A place does not come before itself. -/
theorem Precedes.ne {l l' : Location} (h : l.Precedes l') : l ≠ l' := by
  rintro rfl
  rcases h with hline | ⟨-, hcolumn⟩
  · exact Nat.lt_irrefl _ hline
  · exact Nat.lt_irrefl _ hcolumn

/-- Of two places not both come before the other. -/
theorem Precedes.asymm {l l' : Location} (h : l.Precedes l') : ¬ l'.Precedes l := by
  unfold Precedes at *
  omega

end Location

namespace SourcePane

/-- The line of the place behind a first part of a text starts where whole lines end, and goes on
from there to the first newline. -/
theorem exists_getElem?_withOffsets (offset : Nat) (a b : Text) :
    ∃ i above front, a = above ++ front ∧ Location.after a = ⟨i + 1, front.length + 1⟩ ∧
      (withOffsets offset (Text.splitLines (a ++ b)))[i]? =
        some (offset + above.byteSize, front ++ b.takeWhile (· ≠ '\n')) := by
  induction hlength : a.length using Nat.strong_induction_on generalizing a offset with
  | _ n ih =>
    rcases a.eq_line_or with hline | ⟨line, rest, rfl, hline⟩
    · refine ⟨0, [], a, rfl, ?_, ?_⟩
      · simpa [Location.after, Nat.add_comm] using Location.after_append_of_newline_notMem hline []
      · have hhead : (Text.splitLines (a ++ b)).head? = some (a ++ b.takeWhile (· ≠ '\n')) := by
          rw [Text.head?_splitLines, Text.takeWhile_line_append hline]
        obtain ⟨later, hlater⟩ := List.head?_eq_some_iff.1 hhead
        rw [hlater]
        rfl
    · have hshorter : rest.length < n := by
        rw [← hlength, List.length_append, List.length_cons]
        omega
      obtain ⟨i, above, front, rfl, hafter, hfound⟩ :=
        ih _ hshorter (offset + line.byteSize + 1) rest rfl
      refine ⟨i + 1, line ++ '\n' :: above, front, by simp, ?_, ?_⟩
      · rw [Location.after_append_newline, hafter, List.count_eq_zero_of_not_mem hline]
        rfl
      · rw [List.append_assoc, List.cons_append, Text.splitLines_append_newline hline, withOffsets,
          List.getElem?_cons_succ, hfound]
        have hnewline : ('\n' : Char).utf8Size = 1 := rfl
        simp only [Text.byteSize_append, Text.byteSize_cons, hnewline, Nat.add_assoc]

/-- With their offsets or without, the lines are the same. -/
theorem map_snd_withOffsets (offset : Nat) (lines : List Text) :
    (withOffsets offset lines).map (·.2) = lines := by
  induction lines generalizing offset with
  | nil => rfl
  | cons line rest ih => rw [withOffsets, List.map_cons, ih]

/-- A row is marked when its number and all that is behind it stand out as an error. -/
def IsMarked (row : Line) : Prop :=
  ∃ number content, row = ⟨number, numberStyle true⟩ :: content ∧
    ∀ span ∈ content, span.style = errorStyle

/-- The row of a line when there are no tokens, with or without a mark. -/
def plainRow (isError : Bool) (number : Nat) (line : Text) : Line :=
  [⟨Text.padLeft 4 (toString number).toList ++ [' '], numberStyle isError⟩,
    ⟨line, if isError then errorStyle else .inColor Palette.text⟩]

/-- Without tokens the line of an error is marked and any other is not. -/
theorem isMarked_plainRow_iff {isError : Bool} {number : Nat} {line : Text} :
    IsMarked (plainRow isError number line) ↔ isError := by
  constructor
  · rintro ⟨number', content, hrow, -⟩
    cases isError with
    | true => rfl
    | false =>
      have hstyle : numberStyle false = numberStyle true :=
        congrArg Span.style (List.cons.inj hrow).1
      exact absurd hstyle (by decide)
  · rintro rfl
    exact ⟨_, _, rfl, by simp⟩

/-- The rows of a source when there are no tokens. -/
def plainRows (errorLine : Option Nat) (source : Text) : List Line :=
  (shownLines source).mapIdx fun i p => plainRow (errorLine = some (i + 1)) (i + 1) p.2

/-- Without tokens the pane has the plain rows. -/
theorem content_pane_none (source : Text) (errorLine : Option Nat) :
    (pane source none errorLine).content =
      .rows .running ((plainRows errorLine source).map some) := by
  have hrow (number start : Nat) (line : Text) : row? none errorLine number start line =
      some (plainRow (errorLine = some number) number line) := by
    by_cases h : errorLine = some number <;> simp [row?, plainRow, h]
  refine congrArg (Pane.Content.rows .running) (List.ext_getElem? fun i => ?_)
  simp [plainRows, hrow, Function.comp_def]

/-- Behind their numbers the plain rows show the lines. -/
theorem map_text_plainRows (errorLine : Option Nat) (source : Text) :
    (plainRows errorLine source).map (fun row => Line.text row.tail) =
      (shownLines source).map (·.2) := by
  refine List.ext_getElem? fun i => ?_
  simp [plainRows, plainRow, Line.text, Function.comp_def]

/-- Of the plain rows just the one with the number of the error is marked. -/
theorem isMarked_iff_of_plainRows {errorLine : Option Nat} {source : Text} {i : Nat} {row : Line}
    (h : (plainRows errorLine source)[i]? = some row) :
    IsMarked row ↔ errorLine = some (i + 1) := by
  rw [plainRows, List.getElem?_mapIdx, Option.map_eq_some_iff] at h
  obtain ⟨p, -, rfl⟩ := h
  rw [isMarked_plainRow_iff, decide_eq_true_eq]

end SourcePane

/-- A location leads to an offset when its line is a line of the source, at the place where the
source pane has it start, and the characters in front of its column have the remaining bytes. -/
def Location.LeadsTo (source : Text) (l : Location) (offset : Nat) : Prop :=
  ∃ i k start line, l = ⟨i + 1, k + 1⟩ ∧ (Text.splitLines source)[i]? = some line ∧
    (SourcePane.withOffsets 0 (Text.splitLines source))[i]? = some (start, line) ∧
    source.slice? start (start + line.byteSize) = some line ∧
    k ≤ line.length ∧ offset = start + Text.byteSize (line.take k)

/-- The location behind a first part of a text leads to the end of that part. -/
theorem Location.leadsTo_after (a b : Text) : (after a).LeadsTo (a ++ b) a.byteSize := by
  obtain ⟨i, above, front, rfl, hafter, hfound⟩ := SourcePane.exists_getElem?_withOffsets 0 a b
  rw [Nat.zero_add] at hfound
  refine ⟨i, front.length, _, _, hafter, ?_, hfound, ?_, ?_, ?_⟩
  · rw [← SourcePane.map_snd_withOffsets 0 (Text.splitLines (above ++ front ++ b)),
      List.getElem?_map, hfound]
    rfl
  · have hparts : above ++ front ++ b =
        above ++ (front ++ b.takeWhile (· ≠ '\n') ++ b.dropWhile (· ≠ '\n')) := by
      simp [List.takeWhile_append_dropWhile]
    rw [hparts, Text.slice?_append]
  · simp
  · rw [List.take_left, Text.byteSize_append]

namespace SourcePane

/-- A character stands at an offset in a line with the offset where it starts. -/
def StandsIn (p : Nat × Text) (offset : Nat) (c : Char) : Prop :=
  ∃ before behind, p.2 = before ++ c :: behind ∧ offset = p.1 + before.byteSize

/-- The line that is shown with the number of a location has the character there, unless that ends
the line. -/
theorem exists_standsIn (a b : Text) {c : Char} (hnewline : c ≠ '\n') (hreturn : c ≠ '\r') :
    ∃ i p, (Location.after a).line = i + 1 ∧ (shownLines (a ++ c :: b))[i]? = some p ∧
      StandsIn p a.byteSize c := by
  obtain ⟨i, above, front, rfl, hafter, hfound⟩ := exists_getElem?_withOffsets 0 a (c :: b)
  rw [List.takeWhile_cons_of_pos (by simpa using hnewline), Nat.zero_add] at hfound
  obtain ⟨behind, hbehind⟩ :=
    Text.exists_dropReturn_append_cons front hreturn (b.takeWhile (· ≠ '\n'))
  refine ⟨i, (above.byteSize, front ++ c :: behind), by rw [hafter], ?_, ?_⟩
  · rw [shownLines, List.getElem?_map, hfound, ← hbehind]
    rfl
  · exact ⟨front, behind, rfl, Text.byteSize_append _ _⟩

/-- A pane shows every line of a source in a row and marks just the row with the number of an error;
in its line the character that cannot be read stands at the offset of the error. -/
def MarksError (pane : Pane) (source : Text) (e : LexicalError) : Prop :=
  ∃ rows : List Line, pane.content = .rows .running (rows.map some) ∧
    rows.map (fun row => Line.text row.tail) = (shownLines source).map (·.2) ∧
    ∃ i p o c rest, e.location.line = i + 1 ∧ (shownLines source)[i]? = some p ∧ StandsIn p o c ∧
      Location.ofOffset? source o = some e.location ∧
      source.dropBytes o = c :: rest ∧ OpensUnreadable (c :: rest) e.cause ∧
      ∀ j row, rows[j]? = some row → (IsMarked row ↔ j = i)

/-- The pane of a source with a lexical error marks the error. -/
theorem marksError_pane {source : Text} {e : LexicalError} (h : lex source = .error e) :
    MarksError (pane source none (some e.location.line)) source e := by
  obtain ⟨r, rest, rfl, hr, rfl | ⟨cause, hstuck⟩⟩ := Reading.exists_reading source
  · rw [List.append_nil, Reading.lex_text hr] at h
    contradiction
  · rw [Reading.lex_of_isStuck hr hstuck] at h
    cases h
    obtain ⟨c, rest, rfl⟩ := List.exists_cons_of_ne_nil hstuck.ne_nil
    have hblank : Text.isBlank c = false := hstuck.blank c rfl
    have hnewline : c ≠ '\n' := by
      rintro rfl
      contradiction
    have hreturn : c ≠ '\r' := by
      rintro rfl
      contradiction
    obtain ⟨i, p, hi, hp, hstands⟩ := exists_standsIn r.text rest hnewline hreturn
    refine ⟨plainRows _ _, content_pane_none _ _, map_text_plainRows _ _, i, p, r.text.byteSize, c,
      rest, hi, hp, hstands, Location.ofOffset?_append _ _, Text.dropBytes_append _ _,
      hstuck.opensUnreadable, fun j row hrow => ?_⟩
    rw [isMarked_iff_of_plainRows hrow, hi, Option.some.injEq, Nat.add_right_cancel_iff, eq_comm]

end SourcePane

/-- Locations name places. Every character boundary of a source has a location that leads back to
it, and locations are equal or in order just as their offsets are. Whenever a viewer holds a lexical
error, its source pane has a row for every line of the source that is shown, and marks one of them:
the row with the number of the error, in the line where the character that cannot be read stands at
the offset of the error. -/
theorem locations_name_places :
    (∀ (source : Text) (o : Nat), source.isBoundary o →
      ∃ l, Location.ofOffset? source o = some l ∧ l.LeadsTo source o) ∧
    (∀ (source : Text) (o o' : Nat) (l l' : Location), source.isBoundary o →
      source.isBoundary o' → Location.ofOffset? source o = some l →
      Location.ofOffset? source o' = some l' → (l = l' ↔ o = o') ∧ (l.Precedes l' ↔ o < o')) ∧
    ∀ (path text : Text) (session : List Viewer.Event) (v : Viewer) (e : LexicalError),
      (Viewer.start path text).after session = v → v.analysis.lexicalError = some e →
      SourcePane.MarksError (v.pane .source) v.source e := by
  refine ⟨?_, ?_, ?_⟩
  · intro source o ho
    obtain ⟨a, b, rfl, rfl⟩ := Text.exists_append_of_isBoundary ho
    exact ⟨_, Location.ofOffset?_append a b, Location.leadsTo_after a b⟩
  · intro source o o' l l' ho ho' hl hl'
    rw [Location.eq_atOffset_of_ofOffset? hl, Location.eq_atOffset_of_ofOffset? hl']
    rcases Nat.lt_trichotomy o o' with hlt | rfl | hgt
    · have hbefore := Location.precedes_atOffset ho ho' hlt
      exact ⟨iff_of_false hbefore.ne hlt.ne, iff_of_true hbefore hlt⟩
    · have hself : ¬ (Location.atOffset source o).Precedes (Location.atOffset source o) :=
        fun hbefore => hbefore.ne rfl
      exact ⟨iff_of_true rfl rfl, iff_of_false hself (Nat.lt_irrefl o)⟩
    · have hbehind := Location.precedes_atOffset ho' ho hgt
      exact ⟨iff_of_false hbehind.ne.symm hgt.ne', iff_of_false hbehind.asymm hgt.asymm⟩
  · intro path text session v e hv herror
    have hcurrent : v.IsCurrent := by
      rw [← hv]
      exact (Viewer.isCurrent_start path text).after session
    obtain ⟨k, -, hanalysis⟩ := hcurrent
    have herror' := herror
    rw [hanalysis] at herror'
    obtain ⟨hlex, htokens⟩ := Analysis.lex_of_lexicalError_upTo herror'
    have hpane : v.pane .source = SourcePane.pane v.source none (some e.location.line) := by
      rw [Viewer.pane, herror, hanalysis, htokens]
      rfl
    rw [hpane]
    exact SourcePane.marksError_pane hlex

/-- The end of the first line has a larger column than the error in the second one, and comes
before it; characters of two bytes and carriage returns move neither. -/
theorem locations_name_places_in_second_line :
    (∃ l, Location.ofOffset? "/* é\r\n*/ @\r\nint".toList 10 = some l ∧
        l.LeadsTo "/* é\r\n*/ @\r\nint".toList 10) ∧
      ((⟨1, 6⟩ : Location) = ⟨2, 4⟩ ↔ 6 = 10) ∧ (Location.Precedes ⟨1, 6⟩ ⟨2, 4⟩ ↔ 6 < 10) ∧
      ∃ v, (Viewer.start ['f'] "/* é\r\n*/ @\r\nint".toList).after
          [.key (.char 'l') (.error .notFound), .draw 80 24] = v ∧
        v.analysis.lexicalError = some ⟨.invalidCharacter '@', 2, 4⟩ ∧
        SourcePane.MarksError (v.pane .source) v.source ⟨.invalidCharacter '@', 2, 4⟩ := by
  obtain ⟨hleads, hordered, hmarks⟩ := locations_name_places
  have hreturn : Text.isBoundary "/* é\r\n*/ @\r\nint".toList 6 := by decide +kernel
  have herror : Text.isBoundary "/* é\r\n*/ @\r\nint".toList 10 := by decide +kernel
  have horder := hordered _ 6 10 ⟨1, 6⟩ ⟨2, 4⟩ hreturn herror (by decide +kernel) (by decide +kernel)
  have hlexical : ((Viewer.start ['f'] "/* é\r\n*/ @\r\nint".toList).after
      [.key (.char 'l') (.error .notFound), .draw 80 24]).analysis.lexicalError =
        some ⟨.invalidCharacter '@', 2, 4⟩ := by
    decide +kernel
  exact ⟨hleads _ 10 herror, horder.1, horder.2, _, rfl, hlexical, hmarks _ _ _ _ _ rfl hlexical⟩

end DeclLang
