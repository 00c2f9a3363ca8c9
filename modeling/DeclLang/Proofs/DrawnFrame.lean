import DeclLang.Proofs.Highlighting
import DeclLang.Proofs.ViewerSession

/-!
# Every frame exists

A pane can be drawn when all of its rows exist. Only highlighted source lines may fail to, where
tokens do not fit the text; those that a session leads to are the tokens of the text that is shown,
so each frame of a session can be drawn.
-/

namespace DeclLang

namespace Pane

/-- Every row of the content exists. -/
def Content.IsWhole : Content → Prop
  | .rows _ lines => ∀ line ∈ lines, line.isSome
  | .notice _ _ => True

/-- A notice in place of rows is whole. -/
theorem Content.isWhole_placeholder (outcome : Outcome) (hint : String) :
    (Content.placeholder outcome hint).IsWhole := by
  cases outcome <;> trivial

/-- Values that are all there can be had together. -/
theorem exists_mapM_id_eq_some {α : Type} {values : List (Option α)}
    (h : ∀ value ∈ values, value.isSome) : ∃ found, values.mapM id = some found := by
  induction values with
  | nil => exact ⟨[], rfl⟩
  | cons value values ih =>
    obtain ⟨hvalue, hvalues⟩ := List.forall_mem_cons.1 h
    obtain ⟨x, rfl⟩ := Option.isSome_iff_exists.1 hvalue
    obtain ⟨found, hfound⟩ := ih hvalues
    exact ⟨x :: found, by simp [List.mapM_cons, hfound]⟩

/-- A pane whose content is whole can be drawn at every size and scroll offset. -/
theorem exists_draw? {p : Pane} (h : p.content.IsWhole) (colors : BorderColors) (focused : Bool)
    (width height scroll : Nat) :
    ∃ grid, p.draw? colors focused width height scroll = some grid := by
  obtain ⟨title, content⟩ := p
  cases content with
  | notice line base => exact ⟨_, rfl⟩
  | rows flow lines =>
    obtain ⟨found, hfound⟩ : ∃ found,
        (window height (settle ⟨title, .rows flow lines⟩ height scroll) lines).mapM id =
          some found :=
      exists_mapM_id_eq_some fun line hline =>
        h line (List.mem_of_mem_drop (List.mem_of_mem_take hline))
    simp only [draw?, hfound]
    exact ⟨_, rfl⟩

end Pane

/-- A line of the source has a row if it can be highlighted. -/
theorem SourcePane.isSome_row? {tokens : Option (List Token)} {errorLine : Option Nat}
    {number start : Nat} {line : Text}
    (h : ∀ ts ∈ tokens, ∃ spans, Highlight.line? line start ts = some spans) :
    (row? tokens errorLine number start line).isSome := by
  cases tokens with
  | none => rfl
  | some ts =>
    obtain ⟨spans, hspans⟩ := h ts rfl
    simp [row?, hspans]

namespace Viewer

variable {v : Viewer}

/-- Drawing settles each pane at its own offset. -/
theorem get_scrolls_settle (v : Viewer) (width height : Nat) (name : PaneName) :
    (v.settle width height).scrolls.get name =
      (v.pane name).settle ((Layout.ofSize width height).height name) (v.scrolls.get name) := by
  cases name <;> rfl

/-- The panes of a viewer with current results are whole. -/
theorem IsCurrent.isWhole_pane (h : v.IsCurrent) (name : PaneName) :
    (v.pane name).content.IsWhole := by
  cases name with
  | source =>
    intro row hrow
    obtain ⟨i, hi, rfl⟩ := List.mem_mapIdx.1 hrow
    apply SourcePane.isSome_row?
    intro tokens htokens
    obtain ⟨k, -, hanalysis⟩ := h
    rw [hanalysis] at htokens
    exact exists_line?_of_lex (Analysis.lex_of_tokens_upTo htokens) _ (List.getElem_mem hi)
  | tokens =>
    simp only [pane, TokensPane.pane]
    cases v.analysis.tokens with
    | none => exact Pane.Content.isWhole_placeholder _ _
    | some tokens =>
      cases tokens with
      | nil => trivial
      | cons token tokens =>
        intro row hrow
        obtain ⟨i, hi, rfl⟩ := List.mem_mapIdx.1 hrow
        rfl
  | tree =>
    simp only [pane, TreePane.pane]
    cases v.analysis.tree with
    | none => exact Pane.Content.isWhole_placeholder _ _
    | some tree =>
      intro row hrow
      obtain ⟨r, -, rfl⟩ := List.mem_map.1 hrow
      rfl
  | findings =>
    simp only [pane, FindingsPane.pane]
    cases v.analysis.findings with
    | none => exact Pane.Content.isWhole_placeholder _ _
    | some findings =>
      intro row hrow
      obtain ⟨m, -, rfl⟩ := List.mem_map.1 hrow
      rfl

/-- A frame consists of the drawn panes and the status bar. -/
theorem frame?_eq_some_iff {width height : Nat} {f : Frame} :
    v.frame? width height = some f ↔
      v.drawPane? width height .source = some f.source ∧
      v.drawPane? width height .tokens = some f.tokens ∧
      v.drawPane? width height .tree = some f.tree ∧
      v.drawPane? width height .findings = some f.findings ∧
      StatusBar.draw v.analysis v.status width (min height 1) = f.status := by
  obtain ⟨source, tokens, tree, findings, status⟩ := f
  simp [frame?, Option.bind_eq_some_iff]

/-- A viewer with current results can be drawn at every size. -/
theorem IsCurrent.exists_frame? (h : v.IsCurrent) (width height : Nat) :
    ∃ f, v.frame? width height = some f := by
  have hdraw (name : PaneName) : ∃ grid, v.drawPane? width height name = some grid :=
    Pane.exists_draw? (h.isWhole_pane name) _ _ _ _ _
  obtain ⟨source, hsource⟩ := hdraw .source
  obtain ⟨tokens, htokens⟩ := hdraw .tokens
  obtain ⟨tree, htree⟩ := hdraw .tree
  obtain ⟨findings, hfindings⟩ := hdraw .findings
  exact ⟨⟨source, tokens, tree, findings, _⟩,
    frame?_eq_some_iff.2 ⟨hsource, htokens, htree, hfindings, rfl⟩⟩

end Viewer

end DeclLang
