import DeclLang.Screen.Pane

/-!
# The colours of the viewer
-/

namespace DeclLang.Palette

/-- Ordinary text. -/
def text : Color := .rgb 0xCDD6F4

/-- Operators and the tags of programs and declarations. -/
def primary : Color := .rgb 0x89B4FA

/-- Comments, hints and all that stays in the background. -/
def muted : Color := .rgb 0x6C7086

/-- A phase that passed. -/
def success : Color := .rgb 0xA6E3A1

/-- A warning. -/
def warning : Color := .rgb 0xF9E2AF

/-- A phase that failed, and the line where. -/
def error : Color := .rgb 0xF38BA8

/-- Boolean literals. -/
def boolean : Color := .rgb 0x89B4FA

/-- String and character literals and the labels of tree nodes. -/
def string : Color := .rgb 0xFAB387

/-- Numbers. -/
def number : Color := .rgb 0xFAB387

/-- Type names and the names of kinds. -/
def typeName : Color := .rgb 0x94E2D5

/-- The background of the status bar. -/
def bar : Color := .rgb 0x323246

/-- The borders of panes. -/
def borders : Pane.BorderColors := ⟨.rgb 0xF9E2AF, .rgb 0x6C7086⟩

end DeclLang.Palette
