import DeclLang.Analysis.Basic
import DeclLang.Tree.Outline
import DeclLang.Viewer.Palette

/-!
# The panes of the phases

Each phase has a pane for what it produced: a list of tokens, a drawn tree, or a list of findings.
While there is nothing to show, the pane says which key runs the phase, or why the phase failed.
-/

namespace DeclLang

/-- What a pane shows without a product of its phase: the error of the phase, or a hint. -/
def Pane.Content.placeholder (outcome : Outcome) (hint : String) : Pane.Content :=
  match outcome with
  | .error message =>
    .notice ((Text.lines message.toList).map (⟨·, .inColor Palette.error⟩)) .plain
  | .pass | .skipped => .notice [⟨hint.toList, .inColor Palette.muted⟩] .plain

namespace TokensPane

/-- The row of a token with its number: kind, lexeme and byte span. -/
def row (number : Nat) (t : Token) : Line :=
  [⟨Text.padLeft 3 (toString number).toList ++ [' '], .inColor Palette.muted⟩,
    ⟨Text.padRight 12 t.kind.name.toList, .inColor Palette.typeName⟩,
    ⟨Text.padRight 16 t.lexeme, .inColor Palette.text⟩,
    ⟨(toString t.start ++ ".." ++ toString t.stop).toList, .inColor Palette.muted⟩]

/-- The content of the pane. -/
def content (outcome : Outcome) : Option (List Token) → Pane.Content
  | none => .placeholder outcome "(press l to run the lexical phase)"
  | some [] => .notice [⟨"(no tokens)".toList, .plain⟩] (.inColor Palette.muted)
  | some tokens => .rows .columns (tokens.mapIdx fun i t => some (row i t))

/-- The tokens pane. -/
def pane (tokens : Option (List Token)) (outcome : Outcome) : Pane :=
  ⟨" Tokens ", content outcome tokens⟩

end TokensPane

namespace TreePane

/-- The style of a tag. -/
def tagStyle : Outline.Tag → Style
  | .program | .variableDeclaration => { foreground := some Palette.primary, bold := true }
  | .empty => .inColor Palette.muted
  | .type | .identifier | .expression => .inColor Palette.typeName

/-- A drawn line of an outline. -/
def row (r : Outline.Row) : Line :=
  [⟨r.branches, .inColor Palette.muted⟩, ⟨r.tag.name.toList, tagStyle r.tag⟩] ++
    match r.label with
    | none => []
    | some label => [⟨[':', ' '], .inColor Palette.text⟩, ⟨label, .inColor Palette.string⟩]

/-- The content of the pane. -/
def content (outcome : Outcome) : Option Tree → Pane.Content
  | none => .placeholder outcome "(press p to run the syntax phase)"
  | some tree => .rows .running (tree.outline.rows.map fun r => some (row r))

/-- The tree pane. -/
def pane (tree : Option Tree) (outcome : Outcome) : Pane := ⟨" Syntax Tree ", content outcome tree⟩

end TreePane

namespace FindingsPane

/-- The colour of a level. -/
def levelColor : Level → Color
  | .info => Palette.success
  | .warn => Palette.warning
  | .error => Palette.error

/-- The row of a message with a badge for its level. -/
def row (level : Level) (message : String) : Line :=
  [⟨' ' :: Text.padRight 5 (level.name.toList.map Char.toUpper) ++ [' '],
      { foreground := some .black, background := some (levelColor level), bold := true }⟩,
    ⟨[' '], .plain⟩,
    ⟨message.toList, .inColor (levelColor level)⟩]

/-- The content of the pane for messages with their levels. -/
def content (outcome : Outcome) : Option (List (Level × String)) → Pane.Content
  | none => .placeholder outcome "(press c to run the semantic phase)"
  | some messages =>
    .rows .columns (messages.map fun (level, message) => some (row level message))

/-- The findings pane. -/
def pane (messages : Option (List (Level × String))) (outcome : Outcome) : Pane :=
  ⟨" Findings ", content outcome messages⟩

end FindingsPane

end DeclLang
