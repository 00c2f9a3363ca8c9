import DeclLang.Analysis.Journal
import DeclLang.Files.Disk

/-!
# The viewer

The viewer shows one source text with an analysis that runs phase by phase as keys are pressed. It
keeps which of four panes has the focus, how far each is scrolled, and a message. Running a phase
scrolls the panes of that phase and of later ones back to the top, even when the phase was refused.
Reloading takes what is on disk now and starts a fresh analysis, or keeps everything if the file
cannot be read.
-/

namespace DeclLang

/-- The panes of the viewer. -/
inductive PaneName where
  | source
  | tokens
  | tree
  | findings
deriving DecidableEq, Repr

namespace PaneName

/-- The next pane clockwise. -/
def next : PaneName → PaneName
  | source => tokens
  | tokens => findings
  | findings => tree
  | tree => source

/-- The next pane counter-clockwise. -/
def previous : PaneName → PaneName
  | source => tree
  | tokens => source
  | findings => tokens
  | tree => findings

/-- Going forth and back leads nowhere. -/
@[simp] theorem previous_next (p : PaneName) : p.next.previous = p := by cases p <;> rfl

/-- Going back and forth leads nowhere. -/
@[simp] theorem next_previous (p : PaneName) : p.previous.next = p := by cases p <;> rfl

end PaneName

/-- The scroll offsets of the panes. -/
structure Scrolls where
  source : Nat
  tokens : Nat
  tree : Nat
  findings : Nat
deriving DecidableEq, Repr

namespace Scrolls

/-- Every pane at its top. -/
def top : Scrolls := ⟨0, 0, 0, 0⟩

/-- The offset of a pane. -/
def get (s : Scrolls) : PaneName → Nat
  | .source => s.source
  | .tokens => s.tokens
  | .tree => s.tree
  | .findings => s.findings

/-- The offsets with that of one pane changed. -/
def modify (s : Scrolls) (f : Nat → Nat) : PaneName → Scrolls
  | .source => { s with source := f s.source }
  | .tokens => { s with tokens := f s.tokens }
  | .tree => { s with tree := f s.tree }
  | .findings => { s with findings := f s.findings }

/-- The offsets with the panes of a phase and of later ones back at the top. -/
def resetFrom (s : Scrolls) : Phase → Scrolls
  | .lexical => { s with tokens := 0, tree := 0, findings := 0 }
  | .syntactic => { s with tree := 0, findings := 0 }
  | .semantic => { s with findings := 0 }

/-- The largest scroll offset, that of an unsigned word of 64 bits. -/
def limit : Nat := 0xFFFFFFFFFFFFFFFF

/-- One row further down, but not beyond the limit. -/
def down (offset : Nat) : Nat := min (offset + 1) limit

end Scrolls

/-- What the viewer knows and shows. -/
structure Viewer where
  path : Text
  source : Text
  analysis : Analysis
  focus : PaneName
  scrolls : Scrolls
  quitting : Bool
  status : String
deriving Repr

/-- The keys that the viewer distinguishes. -/
inductive Key where
  | char (c : Char)
  | tab
  | backTab
  | up
  | down
  | escape
  | other
deriving DecidableEq, Repr

namespace Viewer

/-- The viewer on a source text before any key. -/
def start (path source : Text) : Viewer where
  path := path
  source := source
  analysis := .fresh
  focus := .source
  scrolls := .top
  quitting := false
  status := "Ready! Press l to start the lexical phase"

/-- The viewer after the key of a phase. -/
def runPhase (v : Viewer) (phase : Phase) : Viewer :=
  let scrolls := v.scrolls.resetFrom phase
  match v.analysis.run phase v.source with
  | .error refusal =>
    { v with scrolls, analysis := refusal.after, status := "Cannot run: " ++ refusal.message }
  | .ok a =>
    { v with scrolls, analysis := a, status := phase.name ++ " phase: " ++ (a.outcome phase).label }

/-- The viewer after phases in turn up to the first that does not pass. -/
def runEach (v : Viewer) : List Phase → Viewer
  | [] => { v with status := "All phases passed" }
  | phase :: rest =>
    let w := v.runPhase phase
    if (w.analysis.outcome phase).isPass then w.runEach rest else w

/-- The viewer after reading its file again, given what reading gave. -/
def reload (v : Viewer) : Except ReadError Text → Viewer
  | .error e =>
    { v with status := "Cannot reload " ++ String.ofList v.path ++ ": " ++ e.message }
  | .ok source =>
    { v with
      source
      analysis := .fresh
      scrolls := .top
      status := "Reloaded " ++ String.ofList v.path }

/-- The viewer after a key, given what reading its file would give at that moment. -/
def press (v : Viewer) (file : Except ReadError Text) : Key → Viewer
  | .char 'q' | .char 'Q' | .escape => { v with quitting := true }
  | .char 'l' => v.runPhase .lexical
  | .char 'p' => v.runPhase .syntactic
  | .char 'c' => v.runPhase .semantic
  | .char 'a' => v.runEach Phase.all
  | .char 'r' => v.reload file
  | .tab => { v with focus := v.focus.next }
  | .backTab => { v with focus := v.focus.previous }
  | .up => { v with scrolls := v.scrolls.modify (· - 1) v.focus }
  | .down => { v with scrolls := v.scrolls.modify Scrolls.down v.focus }
  | .char _ | .other => v

end Viewer

namespace Journal

/-- The notes of the viewer on phases in turn up to the first that does not pass. -/
def viewingEach (v : Viewer) : List Phase → List Note
  | [] => []
  | phase :: rest =>
    let w := v.runPhase phase
    running v.analysis phase v.source ++
      if (w.analysis.outcome phase).isPass then viewingEach w rest else []

/-- The notes of the viewer on a key. -/
def viewing (v : Viewer) (file : Except ReadError Text) : Key → List Note
  | .char 'l' => running v.analysis .lexical v.source
  | .char 'p' => running v.analysis .syntactic v.source
  | .char 'c' => running v.analysis .semantic v.source
  | .char 'a' => viewingEach v Phase.all
  | .char 'r' =>
    match file with
    | .ok _ => []
    | .error e =>
      [⟨.warn, "reload of " ++ String.ofList v.path ++ " failed: " ++ e.message⟩]
  | _ => []

end Journal

end DeclLang
