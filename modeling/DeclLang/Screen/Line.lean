import DeclLang.Screen.Grid
import DeclLang.Text.Cluster

/-!
# Lines of styled text

A line of styled spans becomes cells symbol by symbol, where a symbol is a cluster of its span and a
newline is none. There are two ways for spans to take their places. In a running line the symbols
simply follow each other, and one without a width is left out. In a line of columns every span
starts where the widths of the spans before it end, and within a span a symbol without a width is
drawn into the cell before it, or into the first cell with what comes next.

Either way the first symbol that does not fit ends the drawing.
-/

namespace DeclLang

/-- Text in one style. -/
structure Span where
  text : Text
  style : Style
deriving DecidableEq, Repr

/-- Spans side by side. -/
abbrev Line := List Span

namespace Span

/-- The symbols of a span. -/
def symbols (span : Span) : List Text := (Text.clusters span.text).filter (· ≠ ['\n'])

end Span

/-- A symbol in a style. -/
structure Glyph where
  symbol : Text
  style : Style
deriving DecidableEq, Repr

namespace Glyph

/-- The number of cells of a glyph. -/
def width (g : Glyph) : Nat := Text.width g.symbol

/-- The cells of a glyph: its symbol, and spaces for the rest of its width. -/
def cells (base : Style) (g : Glyph) : List Cell :=
  if g.width = 0 then [] else ⟨g.symbol, g.style⟩ :: List.replicate (g.width - 1) (.space base)

/-- The glyphs up to the first that does not fit into the room. -/
def fit (room : Nat) : List Glyph → List Glyph
  | [] => []
  | g :: rest => if g.width ≤ room then g :: fit (room - g.width) rest else []

end Glyph

/-- The cells of a span that is being drawn into its column. -/
structure Span.Drawing where
  /-- The cells so far, the last one first. -/
  cells : List Cell := []
  /-- Whether no symbol with a width has been drawn. -/
  opening : Bool := true

namespace Span.Drawing

/-- Draw one more symbol. -/
def add (d : Drawing) (style : Style) (symbol : Text) : Drawing :=
  let width := Text.width symbol
  let cells := match d.cells with
    | [] => [⟨symbol, style⟩]
    | last :: before =>
      if d.opening || width = 0 then last.append symbol style :: before
      else ⟨symbol, style⟩ :: last :: before
  ⟨List.replicate (width - 1) .blank ++ cells, d.opening && width = 0⟩

/-- Draw symbols up to the first that does not fit into the room. -/
def addAll (style : Style) : Nat → Drawing → List Text → Drawing
  | _, d, [] => d
  | room, d, symbol :: rest =>
    if Text.width symbol ≤ room then
      addAll style (room - Text.width symbol) (d.add style symbol) rest
    else d

end Span.Drawing

/-- The cells of a span in a column of the given room. -/
def Span.columnCells (span : Span) (room : Nat) : List Cell :=
  (Drawing.addAll span.style room {} span.symbols).cells.reverse

namespace Line

/-- How the spans of a line take their places. -/
inductive Flow where
  | running
  | columns
deriving DecidableEq, Repr

/-- The text of a line without its styles. -/
def text (line : Line) : Text := line.flatMap (·.text)

/-- The cells of a running line over a style, cut at the given room; a symbol wider than all of the
room is skipped. -/
def runningCells (base : Style) (room : Nat) (line : Line) : List Cell :=
  let glyphs := line.flatMap fun span => span.symbols.map (⟨·, span.style.onto base⟩)
  (Glyph.fit room (glyphs.filter (·.width ≤ room))).flatMap (·.cells base)

/-- Cells with others drawn over them from a column on. -/
def drawOver (under : List Cell) (column : Nat) (upper : List Cell) : List Cell :=
  under.take column ++ List.replicate (column - under.length) .blank ++ upper
    ++ under.drop (column + upper.length)

/-- The cells of a line of columns, cut at the given room; a span without a width has no column. -/
def columnCells : Nat → Line → List Cell
  | _, [] => []
  | room, span :: rest =>
    let width := Text.width span.text
    if width = 0 ∨ room = 0 then columnCells room rest
    else drawOver (span.columnCells room) (min width room) (columnCells (room - width) rest)

/-- A row of the given room with cells at its left, as it shows. -/
def leftCells (flow : Flow) (base : Style) (room : Nat) (line : Line) : List Cell :=
  let cells := match flow with
    | .running => line.runningCells base room
    | .columns => line.columnCells room
  Cell.shown (cells ++ List.replicate (room - cells.length) (.space base))

/-- A row of the given room with the cells of a running line at its right, as it shows. -/
def rightCells (base : Style) (room : Nat) (line : Line) : List Cell :=
  let cells := line.runningCells base room
  Cell.shown (List.replicate (room - cells.length) (.space base) ++ cells)

end Line

end DeclLang
