import DeclLang.Text.Location
import DeclLang.Token.Basic
import DeclLang.Viewer.Palette

/-!
# The source pane

The source is shown line by line with line numbers. With tokens at hand, what belongs to a token is
drawn in the style of its kind, and all else, which can only be blanks and comments, in the muted
colour. The line of a lexical error is marked.

Highlighting cuts a line at the byte offsets of tokens. Tokens that do not fit the text have no
highlighting, and the row does not exist then.
-/

namespace DeclLang

/-- The style of the tokens of a kind. -/
def Token.Kind.style : Token.Kind → Style
  | .keyword => { foreground := some Palette.typeName, bold := true }
  | .boolean => .inColor Palette.boolean
  | .string | .char => .inColor Palette.string
  | .number => .inColor Palette.number
  | .operator => .inColor Palette.primary
  | .identifier | .punctuation => .inColor Palette.text

namespace Highlight

/-- The style between tokens. -/
def gapStyle : Style := .inColor Palette.muted

/-- The part of a line between two byte offsets of its source as a span. -/
def piece? (line : Text) (lineStart start stop : Nat) (style : Style) : Option Span :=
  if start < lineStart then none
  else (Text.slice? line (start - lineStart) (stop - lineStart)).map (⟨·, style⟩)

/-- The part of a line between two byte offsets as a span, or nothing where it is empty. -/
def gap? (line : Text) (lineStart start stop : Nat) : Option (List Span) :=
  if start < stop then (piece? line lineStart start stop gapStyle).map ([·]) else some []

/-- The spans of a line from a byte offset on, given the tokens from there on. -/
def spansFrom? (line : Text) (lineStart cursor : Nat) : List Token → Option (List Span)
  | [] => gap? line lineStart cursor (lineStart + Text.byteSize line)
  | token :: rest =>
    if token.start < lineStart + Text.byteSize line then do
      let gap ← gap? line lineStart cursor token.start
      let lexeme ← piece? line lineStart token.start token.stop token.kind.style
      let others ← spansFrom? line lineStart token.stop rest
      return gap ++ lexeme :: others
    else
      gap? line lineStart cursor (lineStart + Text.byteSize line)

/-- A line that starts at a byte offset of its source as styled spans. -/
def line? (line : Text) (lineStart : Nat) (tokens : List Token) : Option (List Span) :=
  spansFrom? line lineStart lineStart (tokens.dropWhile (·.stop ≤ lineStart))

end Highlight

namespace SourcePane

/-- Lines with the byte offsets where they start, when the first starts at the given one. -/
def withOffsets (offset : Nat) : List Text → List (Nat × Text)
  | [] => []
  | line :: rest => (offset, line) :: withOffsets (offset + Text.byteSize line + 1) rest

/-- The lines of a source as they are shown, without a carriage return at the end, with the byte
offsets where they start. -/
def shownLines (source : Text) : List (Nat × Text) :=
  (withOffsets 0 (Text.splitLines source)).map fun (start, line) => (start, Text.dropReturn line)

/-- The style of the line with a lexical error. -/
def errorStyle : Style :=
  { foreground := some .white, background := some Palette.error, bold := true }

/-- The style of a line number. -/
def numberStyle (isError : Bool) : Style :=
  if isError then { foreground := some Palette.error, bold := true } else .inColor Palette.muted

/-- The row of a line with its number. -/
def row? (tokens : Option (List Token)) (errorLine : Option Nat) (number start : Nat)
    (line : Text) : Option Line := do
  let isError := errorLine = some number
  let content ← match tokens with
    | some tokens => Highlight.line? line start tokens
    | none => some [⟨line, .inColor Palette.text⟩]
  let content := if isError then content.map ({ · with style := errorStyle }) else content
  return ⟨Text.padLeft 4 (toString number).toList ++ [' '], numberStyle isError⟩ :: content

/-- The source pane. -/
def pane (source : Text) (tokens : Option (List Token)) (errorLine : Option Nat) : Pane where
  title := " Source Code "
  content := .rows .running <| (shownLines source).mapIdx fun i (start, line) =>
    row? tokens errorLine (i + 1) start line

end SourcePane

end DeclLang
