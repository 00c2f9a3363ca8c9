import DeclLang.Analysis.Phase
import DeclLang.Finding
import DeclLang.Token.Lexer
import DeclLang.Tree.Statement

/-!
# Analyses

An analysis holds the outcome of every phase and what the phases produced: tokens or a lexical
error, a tree, and findings. Running a phase is refused while the phase it needs has not passed,
and otherwise discards the results of the phase itself and of all later ones first. Either way the
analysis goes on from what the run leaves. The semantic phase looks at the tree, not at the source.
-/

namespace DeclLang

/-- A phase that was refused, and the phase that has to pass first. -/
structure Blocked where
  phase : Phase
  required : Phase
deriving DecidableEq, Repr

/-- The wording of a refusal. -/
def Blocked.message (b : Blocked) : String :=
  "the " ++ b.phase.name ++ " phase needs a passing " ++ b.required.name ++ " phase first"

/-- The outcomes and products of the phases that ran so far. -/
structure Analysis where
  tokens : Option (List Token)
  lexicalError : Option LexicalError
  tree : Option Tree
  findings : Option (List Finding)
  outcomes : PerPhase Outcome
deriving Repr

/-- A phase that was refused, with the analysis that the refusal leaves. -/
structure Refusal extends Blocked where
  after : Analysis
deriving Repr

/-- A refusal tells which phase was blocked. -/
instance : Coe Refusal Blocked := ⟨Refusal.toBlocked⟩

namespace Analysis

/-- The analysis before any phase. -/
def fresh : Analysis := ⟨none, none, none, none, .replicate .skipped⟩

/-- The outcome of a phase. -/
def outcome (a : Analysis) (phase : Phase) : Outcome := a.outcomes.get phase

/-- Whether every phase passed. -/
def isClean (a : Analysis) : Bool := Phase.all.all fun phase => (a.outcome phase).isPass

/-- Whether a phase may run. -/
def canRun (a : Analysis) (phase : Phase) : Bool :=
  phase.required?.all fun required => (a.outcome required).isPass

/-- The analysis without the results of a phase and of all later ones. -/
def resetFrom (a : Analysis) : Phase → Analysis
  | .lexical => fresh
  | .syntactic =>
    { a with
      tree := none
      findings := none
      outcomes := (a.outcomes.set .syntactic .skipped).set .semantic .skipped }
  | .semantic => { a with findings := none, outcomes := a.outcomes.set .semantic .skipped }

/-- The outcome that findings amount to: the first error, or a pass. -/
def verdict (findings : List Finding) : Outcome :=
  match Finding.firstError? findings with
  | some finding => .error finding.message
  | none => .pass

/-- The analysis after a phase whose results, and those of later phases, are not there yet. -/
def record (a : Analysis) (phase : Phase) (source : Text) : Analysis :=
  match phase with
  | .lexical =>
    match lex source with
    | .ok tokens => { a with tokens := some tokens, outcomes := a.outcomes.set .lexical .pass }
    | .error e =>
      { a with lexicalError := some e, outcomes := a.outcomes.set .lexical (.error e.describe) }
  | .syntactic =>
    match parse source with
    | .ok tree => { a with tree := some tree, outcomes := a.outcomes.set .syntactic .pass }
    | .error e => { a with outcomes := a.outcomes.set .syntactic (.error e.describe) }
  | .semantic =>
    let findings := (a.tree.map check).getD []
    { a with findings := some findings, outcomes := a.outcomes.set .semantic (verdict findings) }

/-- Run a phase on a source text, unless the phase it needs has not passed. There is an analysis to
go on from in both cases. -/
def run (a : Analysis) (phase : Phase) (source : Text) : Except Refusal Analysis :=
  match phase.required? with
  | none => .ok ((a.resetFrom phase).record phase source)
  | some required =>
    if (a.outcome required).isPass then .ok ((a.resetFrom phase).record phase source)
    else .error ⟨⟨phase, required⟩, a⟩

/-- A phase that may run is not refused. -/
theorem run_of_canRun {a : Analysis} {phase : Phase} (h : a.canRun phase) (source : Text) :
    a.run phase source = .ok ((a.resetFrom phase).record phase source) := by
  unfold run
  split
  · rfl
  · rename_i required hrequired
    exact if_pos (by simpa [canRun, hrequired] using h)

/-- Run phases in turn up to the first that is refused. -/
def runEach (a : Analysis) (source : Text) : List Phase → Analysis
  | [] => a
  | phase :: rest =>
    match a.run phase source with
    | .error refusal => refusal.after
    | .ok b => b.runEach source rest

end Analysis

/-- The analysis of a source text by all phases in order, up to the first that fails. -/
def analyze (source : Text) : Analysis := Analysis.fresh.runEach source Phase.all

end DeclLang
