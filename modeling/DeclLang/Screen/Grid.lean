import DeclLang.Text.Width

/-!
# Screens of cells

A grid is a list of rows of cells, and a cell holds a symbol in one style. A style leaves open what
it does not name, so styles can be laid over each other.
-/

namespace DeclLang

/-- A colour, by name or by red, green and blue in one number of three bytes. -/
inductive Color where
  | black
  | white
  | rgb (code : Nat)
deriving DecidableEq, Repr

/-- Colours and emphasis, each of which may be left open. -/
structure Style where
  foreground : Option Color := none
  background : Option Color := none
  bold : Bool := false
  crossedOut : Bool := false
deriving DecidableEq, Repr

namespace Style

/-- The style that leaves everything open. -/
def plain : Style := {}

/-- The style that names a foreground only. -/
def inColor (color : Color) : Style := { foreground := some color }

/-- A style laid over another, which shows where the upper one is open. -/
def onto (upper lower : Style) : Style where
  foreground := upper.foreground <|> lower.foreground
  background := upper.background <|> lower.background
  bold := upper.bold || lower.bold
  crossedOut := upper.crossedOut || lower.crossedOut

/-- Nothing shows through from the open style. -/
@[simp] theorem onto_plain (s : Style) : s.onto plain = s := by
  cases s with
  | mk foreground background bold crossedOut =>
    cases foreground <;> cases background <;> simp [onto, plain]

end Style

/-- One place on the screen. -/
structure Cell where
  symbol : Text
  style : Style
deriving DecidableEq, Repr

namespace Cell

/-- A space in a style. -/
def space (style : Style) : Cell := ⟨[' '], style⟩

/-- A space in the open style. -/
def blank : Cell := space .plain

/-- A cell with one more symbol drawn into it. -/
def append (cell : Cell) (symbol : Text) (style : Style) : Cell :=
  ⟨cell.symbol ++ symbol, style.onto cell.style⟩

/-- What shows of a row of cells: a symbol of two cells or more covers the cell behind its own. -/
def shown (row : List Cell) : List Cell :=
  List.zipWith (fun before cell => if 2 ≤ Text.width before.symbol then .blank else cell)
    (.blank :: row) row

end Cell

/-- Rows of cells from top to bottom. -/
abbrev Grid := List (List Cell)

namespace Grid

/-- A grid of equal cells. -/
def filled (width height : Nat) (cell : Cell) : Grid :=
  List.replicate height (List.replicate width cell)

/-- Two grids side by side. -/
def beside (left right : Grid) : Grid := List.zipWith (· ++ ·) left right

/-- A grid with another one put over it, whose top left cell goes to the given column and row; what
would stick out is cut off. -/
def put (under : Grid) (column row : Nat) (upper : Grid) : Grid :=
  under.mapIdx fun i cells =>
    match if i < row then none else upper[i - row]? with
    | none => cells
    | some inner =>
      cells.take column ++ inner.take (cells.length - column)
        ++ cells.drop (column + inner.length)

/-- A row of cells as text. -/
def rowText (row : List Cell) : Text := row.flatMap (·.symbol)

end Grid

end DeclLang
