import DeclLang.Screen.Line

/-!
# Panes

A pane is a bordered box with a title and either rows, of which it shows a window, or a notice in
their place. The window starts at a scroll offset that is pulled back so that no room is left below
the last row. A row may fail to exist, and then the pane cannot be drawn while that row is in the
window.
-/

namespace DeclLang

/-- What a pane shows. -/
inductive Pane.Content where
  /-- Rows to scroll through. -/
  | rows (flow : Line.Flow) (lines : List (Option Line))
  /-- One line in place of rows, over a style for the whole pane. -/
  | notice (line : Line) (base : Style)
deriving DecidableEq, Repr

/-- A titled box with content. -/
structure Pane where
  title : String
  content : Pane.Content
deriving DecidableEq, Repr

namespace Pane

/-- The number of rows between the borders of a pane, but at least one. -/
def visibleRows (height : Nat) : Nat := max (height - 2) 1

/-- The scroll offset pulled back to the last full window. -/
def clampScroll (height total scroll : Nat) : Nat :=
  if visibleRows height < total then min scroll (total - visibleRows height) else 0

/-- The scroll offset after drawing; a notice leaves it alone. -/
def settle (p : Pane) (height scroll : Nat) : Nat :=
  match p.content with
  | .rows _ lines => clampScroll height lines.length scroll
  | .notice _ _ => scroll

/-- The rows of the window that starts at a scroll offset. -/
def window (height scroll : Nat) (lines : List (Option Line)) : List (Option Line) :=
  (lines.drop scroll).take (visibleRows height)

/-- The colour of the border of a pane that has the focus, and of one that has not. -/
structure BorderColors where
  focused : Color
  normal : Color

/-- The style of a border, which also is bold with the focus. -/
def BorderColors.style (colors : BorderColors) (focused : Bool) : Style :=
  if focused then { foreground := some colors.focused, bold := true }
  else .inColor colors.normal

/-- The top border with the title from the second cell on. -/
def topBorder (width : Nat) (title : Text) : Text :=
  if width = 0 then []
  else if width = 1 then ['┌']
  else '┌' :: (title.take (width - 2) ++ List.replicate (width - 2 - title.length) '─') ++ ['┐']

/-- The bottom border. -/
def bottomBorder (width : Nat) : Text :=
  if width = 0 then []
  else if width = 1 then ['└']
  else '└' :: List.replicate (width - 2) '─' ++ ['┘']

/-- Content rows between the side borders. -/
def sideBorders (width : Nat) (border : Style) (inner : List Cell) : List Cell :=
  if width = 0 then []
  else if width = 1 then [⟨['│'], border⟩]
  else ⟨['│'], border⟩ :: inner ++ [⟨['│'], border⟩]

/-- A box around lines of content, all over a base style; a box of one row is its top border. -/
def box (width height : Nat) (title : Text) (border base : Style) (flow : Line.Flow)
    (lines : List Line) : Grid :=
  let edge (symbols : Text) : List Cell := symbols.map (⟨[·], border⟩)
  let middle := (lines.take (height - 2)).map (·.leftCells flow base (width - 2))
  let padding := Grid.filled (width - 2) (height - 2 - middle.length) (.space base)
  let inside := (middle ++ padding).map (sideBorders width border)
  if height = 0 then []
  else if height = 1 then [edge (topBorder width title)]
  else edge (topBorder width title) :: inside ++ [edge (bottomBorder width)]

/-- A drawn pane. -/
def draw? (p : Pane) (colors : BorderColors) (focused : Bool) (width height scroll : Nat) :
    Option Grid :=
  let border := colors.style focused
  match p.content with
  | .notice line base =>
    some (box width height p.title.toList (border.onto base) base .running [line])
  | .rows flow lines =>
    ((window height (p.settle height scroll) lines).mapM id).map
      (box width height p.title.toList border .plain flow)

end Pane

end DeclLang
