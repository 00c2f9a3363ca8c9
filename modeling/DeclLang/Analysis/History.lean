import DeclLang.Analysis.Basic

/-!
# Histories of runs

A history is a list of attempts to run a phase, each on a source text of its own. Attempts that are
refused change nothing. What a history leads to rests on few of its runs: the last lexical one, the
last syntax one accepted after it, and the last semantic one accepted after that.
-/

namespace DeclLang

/-- An attempt to run a phase on a source text. -/
structure Run where
  phase : Phase
  source : Text
deriving DecidableEq, Repr

namespace Analysis

/-- The analysis after an attempt, accepted or refused. -/
def attempt (a : Analysis) (r : Run) : Analysis :=
  match a.run r.phase r.source with
  | .ok b => b
  | .error refusal => refusal.after

/-- The analysis after attempts in turn. -/
def attemptAll (a : Analysis) (history : List Run) : Analysis := history.foldl attempt a

/-- The attempts of a history that are not refused. -/
def accepted (a : Analysis) : List Run → List Run
  | [] => []
  | r :: rest =>
    if a.canRun r.phase then r :: (a.attempt r).accepted rest else a.accepted rest

end Analysis

namespace History

/-- The last run of a phase and what comes after it. -/
def cutAtLast? (phase : Phase) : List Run → Option (Run × List Run)
  | [] => none
  | r :: rest =>
    match cutAtLast? phase rest with
    | some cut => some cut
    | none => if r.phase = phase then some (r, rest) else none

/-- The last run of the first phase, then the last run of the next phase after it, and so on up to a
phase without one. -/
def essence : List Phase → List Run → List Run
  | [], _ => []
  | phase :: phases, history =>
    match cutAtLast? phase history with
    | none => []
    | some (r, later) => r :: essence phases later

end History

end DeclLang
