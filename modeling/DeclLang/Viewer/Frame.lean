import DeclLang.Viewer.Basic
import DeclLang.Viewer.ResultPanes
import DeclLang.Viewer.SourcePane
import DeclLang.Viewer.StatusBar

/-!
# Frames

A frame of the viewer has the status bar in its last row and the four panes above it in two
columns: source over tokens on the left, tree over findings on the right. Drawing settles the scroll
offsets of the panes and changes nothing else.
-/

namespace DeclLang

/-- The sizes of the parts of a frame. -/
structure Layout where
  left : Nat
  right : Nat
  source : Nat
  tokens : Nat
  tree : Nat
  findings : Nat
deriving DecidableEq, Repr

namespace Layout

/-- The layout of a frame of the given size: the left column has 55 percent of the width, the
source 60 percent of the height above the status bar, and the tree 55 percent of it. -/
def ofSize (width height : Nat) : Layout where
  left := StatusBar.share 55 width
  right := width - StatusBar.share 55 width
  source := StatusBar.share 60 (height - 1)
  tokens := height - 1 - StatusBar.share 60 (height - 1)
  tree := StatusBar.share 55 (height - 1)
  findings := height - 1 - StatusBar.share 55 (height - 1)

/-- The number of columns of a pane. -/
def width (l : Layout) : PaneName → Nat
  | .source | .tokens => l.left
  | .tree | .findings => l.right

/-- The number of rows of a pane. -/
def height (l : Layout) : PaneName → Nat
  | .source => l.source
  | .tokens => l.tokens
  | .tree => l.tree
  | .findings => l.findings

end Layout

/-- The drawn parts of a frame. -/
structure Frame where
  source : Grid
  tokens : Grid
  tree : Grid
  findings : Grid
  status : Grid
deriving DecidableEq, Repr

/-- The whole screen of a frame. -/
def Frame.screen (f : Frame) : Grid :=
  Grid.beside (f.source ++ f.tokens) (f.tree ++ f.findings) ++ f.status

namespace Viewer

/-- What a pane of the viewer shows. -/
def pane (v : Viewer) : PaneName → Pane
  | .source =>
    SourcePane.pane v.source v.analysis.tokens
      (v.analysis.lexicalError.map fun e => e.location.line)
  | .tokens => TokensPane.pane v.analysis.tokens (v.analysis.outcome .lexical)
  | .tree => TreePane.pane v.analysis.tree (v.analysis.outcome .syntactic)
  | .findings =>
    FindingsPane.pane (v.analysis.findings.map fun fs => fs.map fun f => (f.level, f.message))
      (v.analysis.outcome .semantic)

/-- The viewer after drawing a frame of the given size. -/
def settle (v : Viewer) (width height : Nat) : Viewer :=
  let layout := Layout.ofSize width height
  let offset := fun name => (v.pane name).settle (layout.height name) (v.scrolls.get name)
  { v with scrolls := ⟨offset .source, offset .tokens, offset .tree, offset .findings⟩ }

/-- A pane drawn in a frame of the given size; none if one of its rows does not exist. -/
def drawPane? (v : Viewer) (width height : Nat) (name : PaneName) : Option Grid :=
  let layout := Layout.ofSize width height
  (v.pane name).draw? Palette.borders (v.focus = name) (layout.width name) (layout.height name)
    (v.scrolls.get name)

/-- A drawn frame of the given size; none if one of its rows does not exist. -/
def frame? (v : Viewer) (width height : Nat) : Option Frame := do
  let source ← v.drawPane? width height .source
  let tokens ← v.drawPane? width height .tokens
  let tree ← v.drawPane? width height .tree
  let findings ← v.drawPane? width height .findings
  return ⟨source, tokens, tree, findings, StatusBar.draw v.analysis v.status width (min height 1)⟩

end Viewer

end DeclLang
