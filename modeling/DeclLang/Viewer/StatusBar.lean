import DeclLang.Analysis.Basic
import DeclLang.Viewer.Palette

/-!
# The status bar

The left half of the bar has a badge for every phase and a message, the right half the keys and
what they do. The key of a phase that would be refused is crossed out.
-/

namespace DeclLang.StatusBar

/-- The abbreviation of a phase on its badge. -/
def badgeName : Phase → String
  | .lexical => "LEX"
  | .syntactic => "SYN"
  | .semantic => "SEM"

/-- The colour of a badge. -/
def badgeColor : Outcome → Color
  | .pass => Palette.success
  | .error _ => Palette.error
  | .skipped => Palette.muted

/-- The background of the bar. -/
def base : Style := { background := some Palette.bar }

/-- A style on the bar. -/
def onBar (color : Color) : Style := { foreground := some color, background := some Palette.bar }

/-- The style of a key. -/
def keyStyle : Style := { foreground := some .black, background := some Palette.muted }

/-- The badge of a phase and the gap after it. -/
def badge (a : Analysis) (phase : Phase) : List Span :=
  let outcome := a.outcome phase
  [⟨(" " ++ badgeName phase ++ " " ++ outcome.label ++ " ").toList,
      { foreground := some .black, background := some (badgeColor outcome), bold := true }⟩,
    ⟨[' '], onBar Palette.muted⟩]

/-- The left half of the bar. -/
def leftLine (a : Analysis) (message : String) : Line :=
  Phase.all.flatMap (badge a) ++
    [⟨['|', ' '], onBar Palette.muted⟩, ⟨message.toList ++ [' '], onBar Palette.text⟩]

/-- A key and what it does. -/
def key (style : Style) (symbol : Char) (action : String) : List Span :=
  [⟨[' ', symbol, ' '], style⟩, ⟨' ' :: action.toList ++ [' '], onBar Palette.text⟩]

/-- The key of a phase and what it does. -/
def phaseKey (a : Analysis) (phase : Phase) (symbol : Char) (action : String) : List Span :=
  key (if a.canRun phase then keyStyle else { onBar Palette.muted with crossedOut := true })
    symbol action

/-- The line between groups of keys. -/
def separator : List Span := [⟨['│'], onBar Palette.muted⟩]

/-- The right half of the bar. -/
def rightLine (a : Analysis) : Line :=
  phaseKey a .lexical 'l' "lex" ++ phaseKey a .syntactic 'p' "parse"
    ++ phaseKey a .semantic 'c' "check" ++ separator ++ key keyStyle 'a' "all"
    ++ key keyStyle 'r' "reload" ++ separator ++ key keyStyle '⇥' "focus" ++ key keyStyle 'q' "quit"

/-- The part of a length that a percentage of it takes, rounded to the nearest cell with halves
up. -/
def share (percent length : Nat) : Nat := (percent * length + 50) / 100

/-- The drawn bar, with its text in the first row. -/
def draw (a : Analysis) (message : String) (width height : Nat) : Grid :=
  let left := share 50 width
  let row := (leftLine a message).leftCells .running base left ++
    (rightLine a).rightCells base (width - left)
  if height = 0 then [] else row :: Grid.filled width (height - 1) (.space base)

end DeclLang.StatusBar
