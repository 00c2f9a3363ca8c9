import DeclLang.Proofs.DrawnFrame
import DeclLang.Proofs.DrawnOutline
import DeclLang.Proofs.LocatedLine

/-!
# Scrolled windows

However far a pane is scrolled, drawing pulls it back until its window is full or shows all rows.
The offset that results is never larger, the row that was scrolled to stays in sight if there is
one, and an offset that has been pulled back stays where it is. So a frame that is drawn twice is
the same both times.
-/

namespace DeclLang

namespace Pane

variable {p : Pane} {height total scroll : Nat} {lines : List (Option Line)}

/-- The offset of a pane with rows after drawing, by the one before. -/
structure ShowsPage (lines : List (Option Line)) (height scroll offset : Nat) : Prop where
  /-- The offset is pulled back to the last full window, and to the top if one window shows all. -/
  offset_eq : offset = if visibleRows height < lines.length
    then min scroll (lines.length - visibleRows height) else 0
  /-- The window lies within the rows if there are more than it shows. -/
  full : visibleRows height < lines.length → offset + visibleRows height ≤ lines.length ∧
    (window height offset lines).length = visibleRows height
  /-- The row that was scrolled to is in the window. -/
  reaches : scroll < lines.length → offset ≤ scroll ∧ scroll < offset + visibleRows height ∧
    (window height offset lines)[scroll - offset]? = lines[scroll]?

/-- An offset is pulled back, never forward. -/
theorem clampScroll_le : clampScroll height total scroll ≤ scroll := by
  unfold clampScroll
  split
  · exact Nat.min_le_left _ _
  · exact Nat.zero_le scroll

/-- An offset that has been pulled back stays where it is. -/
theorem clampScroll_clampScroll : clampScroll height total (clampScroll height total scroll) =
    clampScroll height total scroll := by
  unfold clampScroll
  split
  · exact Nat.min_eq_left (Nat.min_le_right _ _)
  · rfl

/-- The rows from an offset that has been pulled back fill the window, if there are enough. -/
theorem clampScroll_add_le (h : visibleRows height < total) :
    clampScroll height total scroll + visibleRows height ≤ total := by
  rw [clampScroll, if_pos h]
  have hlast := Nat.min_le_right scroll (total - visibleRows height)
  omega

/-- A row that was scrolled to stays in the window. -/
theorem lt_clampScroll_add (h : scroll < total) :
    scroll < clampScroll height total scroll + visibleRows height := by
  unfold clampScroll
  split
  · have hvisible : 0 < visibleRows height := Nat.lt_of_lt_of_le Nat.one_pos (Nat.le_max_right _ _)
    omega
  · omega

/-- A window holds the row at each place in it. -/
theorem getElem?_window {offset i : Nat} (hle : offset ≤ i)
    (hlt : i < offset + visibleRows height) :
    (window height offset lines)[i - offset]? = lines[i]? := by
  rw [window, List.getElem?_take_of_lt (by omega), List.getElem?_drop, Nat.add_sub_cancel' hle]

/-- Pulling the offset back shows a page. -/
theorem showsPage_clampScroll :
    ShowsPage lines height scroll (clampScroll height lines.length scroll) where
  offset_eq := rfl
  full h := by
    have hle : clampScroll height lines.length scroll + visibleRows height ≤ lines.length :=
      clampScroll_add_le h
    refine ⟨hle, ?_⟩
    rw [window, List.length_take, List.length_drop]
    omega
  reaches h := by
    have hlt : scroll < clampScroll height lines.length scroll + visibleRows height :=
      lt_clampScroll_add h
    exact ⟨clampScroll_le, hlt, getElem?_window clampScroll_le hlt⟩

/-- Drawing scrolls no pane forward. -/
theorem settle_le : p.settle height scroll ≤ scroll := by
  unfold settle
  split
  · exact clampScroll_le
  · exact Nat.le_refl scroll

/-- Drawing again scrolls no pane. -/
theorem settle_settle : p.settle height (p.settle height scroll) = p.settle height scroll := by
  obtain ⟨title, content⟩ := p
  cases content with
  | rows flow lines => exact clampScroll_clampScroll
  | notice line base => rfl

/-- A pane is drawn in the same way before and after it is scrolled by drawing. -/
theorem draw?_settle (colors : BorderColors) (focused : Bool) (width : Nat) :
    p.draw? colors focused width height (p.settle height scroll) =
      p.draw? colors focused width height scroll := by
  simp only [draw?, settle_settle]

end Pane

/-- Offsets that are the same in every pane are the same. -/
theorem Scrolls.ext_get {s t : Scrolls} (h : ∀ name, s.get name = t.get name) : s = t := by
  obtain ⟨source, tokens, tree, findings⟩ := s
  cases h .source
  cases h .tokens
  cases h .tree
  cases h .findings
  rfl

/-- An outline is drawn with a row for every node. -/
theorem Outline.length_rows (o : Outline) : o.rows.length = o.flatten.length := by
  have hflatten : o.flatten = (visitFrom [] o).map fun v => (v.1.length, v.2) :=
    flattenFrom_length [] o
  have hdraws : List.Forall₂ (fun v row => Draws o v.1 v.2 row) (visitFrom [] o) o.rows :=
    draws_rowsFrom o o rfl (isStem_nil o)
  rw [hflatten, List.length_map, hdraws.length_eq]

namespace Viewer

variable {v : Viewer} {name : PaneName}

/-- The number of rows that a pane has: the lines of the source, the tokens, the nodes of the tree
and the findings, as far as they are there. -/
def rowCount (v : Viewer) : PaneName → Nat
  | .source => (Text.splitLines v.source).length
  | .tokens => (v.analysis.tokens.getD []).length
  | .tree => (v.analysis.tree.map (·.outline.flatten)).getD [] |>.length
  | .findings => (v.analysis.findings.getD []).length

/-- A pane that has rows shows them. -/
theorem exists_rows (h : 0 < v.rowCount name) : ∃ flow lines,
    (v.pane name).content = .rows flow lines ∧ lines.length = v.rowCount name := by
  cases name with
  | source =>
    have hlines := congrArg List.length
      (SourcePane.map_snd_withOffsets 0 (Text.splitLines v.source))
    rw [List.length_map] at hlines
    refine ⟨_, _, rfl, ?_⟩
    rw [List.length_mapIdx, SourcePane.shownLines, List.length_map, hlines]
    rfl
  | tokens =>
    simp only [pane, TokensPane.pane, rowCount] at h ⊢
    cases htokens : v.analysis.tokens with
    | none => simp [htokens] at h
    | some tokens =>
      cases tokens with
      | nil => simp [htokens] at h
      | cons token tokens => exact ⟨_, _, rfl, List.length_mapIdx⟩
  | tree =>
    simp only [pane, TreePane.pane, rowCount] at h ⊢
    cases htree : v.analysis.tree with
    | none => simp [htree] at h
    | some tree => exact ⟨_, _, rfl, (List.length_map _).trans tree.outline.length_rows⟩
  | findings =>
    simp only [pane, FindingsPane.pane, rowCount] at h ⊢
    cases hfindings : v.analysis.findings with
    | none => simp [hfindings] at h
    | some findings => exact ⟨_, _, rfl, by simp⟩

/-- Drawing changes the content of no pane. -/
theorem pane_settle (v : Viewer) (width height : Nat) (name : PaneName) :
    (v.settle width height).pane name = v.pane name := by
  cases name <;> rfl

/-- Drawing again at the same size scrolls no pane. -/
theorem settle_settle (v : Viewer) (width height : Nat) :
    (v.settle width height).settle width height = v.settle width height := by
  have hscrolls : ((v.settle width height).settle width height).scrolls =
      (v.settle width height).scrolls := by
    refine Scrolls.ext_get fun name => ?_
    rw [get_scrolls_settle, get_scrolls_settle, pane_settle, Pane.settle_settle]
  exact congrArg (fun scrolls => { v with scrolls }) hscrolls

/-- Drawing again at the same size draws the same pane. -/
theorem drawPane?_settle (v : Viewer) (width height : Nat) (name : PaneName) :
    (v.settle width height).drawPane? width height name = v.drawPane? width height name := by
  simp only [drawPane?, pane_settle, get_scrolls_settle, Pane.draw?_settle]
  rfl

/-- Drawing again at the same size draws the same frame. -/
theorem frame?_settle (v : Viewer) (width height : Nat) :
    (v.settle width height).frame? width height = v.frame? width height := by
  simp only [frame?, drawPane?_settle]
  rfl

/-- Drawing keeps full pages. Whatever the scroll offsets are and at every size, it changes nothing
but the offsets and makes none larger, a pane with rows shows a page with the row that it was
scrolled to, and drawing again changes nothing any more and gives the same frame. A viewer with
current results has that frame. -/
theorem settle_keeps_full_pages (v : Viewer) (width height : Nat) :
    v.settle width height = { v with scrolls := (v.settle width height).scrolls } ∧
    (∀ name, (v.settle width height).scrolls.get name ≤ v.scrolls.get name) ∧
    (∀ name, 0 < v.rowCount name → ∃ flow lines,
      (v.pane name).content = .rows flow lines ∧ lines.length = v.rowCount name ∧
      Pane.ShowsPage lines ((Layout.ofSize width height).height name) (v.scrolls.get name)
        ((v.settle width height).scrolls.get name)) ∧
    (v.settle width height).settle width height = v.settle width height ∧
    (v.settle width height).frame? width height = v.frame? width height ∧
    (v.IsCurrent → ∃ f, v.frame? width height = some f) := by
  refine ⟨rfl, fun name => ?_, fun name hrows => ?_, v.settle_settle width height,
    v.frame?_settle width height, fun hcurrent => hcurrent.exists_frame? width height⟩
  · rw [get_scrolls_settle]
    exact Pane.settle_le
  · obtain ⟨flow, lines, hcontent, hlength⟩ := v.exists_rows hrows
    refine ⟨flow, lines, hcontent, hlength, ?_⟩
    rw [get_scrolls_settle, Pane.settle, hcontent]
    exact Pane.showsPage_clampScroll

/-- Three panes are scrolled as far as offsets go and pulled back, the tokens stay where they were
scrolled to, and the next frame is the same. -/
theorem settle_scrolled_to_limit :
    ∃ v, { (start ['f'] "int a\n=\n1\n;".toList).press (.error .notFound) (.char 'a') with
        scrolls := ⟨Scrolls.limit, 2, Scrolls.limit, Scrolls.limit⟩ } = v ∧
      (v.settle 20 9).scrolls = ⟨1, 2, 3, 0⟩ ∧
      (∃ flow lines, (v.pane .tokens).content = .rows flow lines ∧ lines.length = 5 ∧
        Pane.ShowsPage lines 3 2 2) ∧
      (v.settle 20 9).settle 20 9 = v.settle 20 9 ∧
      ∃ f, v.frame? 20 9 = some f ∧ (v.settle 20 9).frame? 20 9 = some f := by
  obtain ⟨v, hv⟩ : ∃ v, { (start ['f'] "int a\n=\n1\n;".toList).press (.error .notFound) (.char 'a')
    with scrolls := ⟨Scrolls.limit, 2, Scrolls.limit, Scrolls.limit⟩ } = v := ⟨_, rfl⟩
  have hscrolls : (v.settle 20 9).scrolls = ⟨1, 2, 3, 0⟩ := by
    rw [← hv]
    decide +kernel
  have hrows : v.rowCount .tokens = 5 := by
    rw [← hv]
    decide +kernel
  have hbefore : v.scrolls.get .tokens = 2 := by
    rw [← hv]
    rfl
  have hcurrent : v.IsCurrent := by
    rw [← hv]
    exact (isCurrent_start _ _).press _ _
  obtain ⟨-, -, hpages, hsettled, hframe, hdrawn⟩ := settle_keeps_full_pages v 20 9
  obtain ⟨flow, lines, hcontent, hlength, hpage⟩ := hpages .tokens (by rw [hrows]; decide)
  rw [hscrolls, hbefore] at hpage
  obtain ⟨f, hf⟩ := hdrawn hcurrent
  exact ⟨v, hv, hscrolls, ⟨flow, lines, hcontent, hlength.trans hrows, hpage⟩, hsettled, f, hf,
    hframe.trans hf⟩

end Viewer

end DeclLang
