import DeclLang.Text.Basic

/-!
# Phases and outcomes

Three phases look at a source text: lexical, syntax and semantic. Each but the first needs its
predecessor to have passed. A phase passes, fails with a message, or is skipped.
-/

namespace DeclLang

/-- The phases of an analysis. -/
inductive Phase where
  | lexical
  | syntactic
  | semantic
deriving DecidableEq, Repr

namespace Phase

/-- Every phase, in order. -/
def all : List Phase := [.lexical, .syntactic, .semantic]

/-- The name of a phase. -/
def name : Phase → String
  | .lexical => "lexical"
  | .syntactic => "syntax"
  | .semantic => "semantic"

/-- The phase that has to pass before this one may run. -/
def required? : Phase → Option Phase
  | .lexical => none
  | .syntactic => some .lexical
  | .semantic => some .syntactic

/-- The phase with a given name. -/
def ofName? (word : Text) : Option Phase := all.find? (·.name.toList == word)

end Phase

/-- Three values of one type, one for each phase. -/
structure PerPhase (α : Type) where
  lexical : α
  syntactic : α
  semantic : α
deriving DecidableEq, Repr

namespace PerPhase

variable {α β : Type}

/-- The value for a phase. -/
def get (values : PerPhase α) : Phase → α
  | .lexical => values.lexical
  | .syntactic => values.syntactic
  | .semantic => values.semantic

/-- The same values but for one phase. -/
def set (values : PerPhase α) (phase : Phase) (value : α) : PerPhase α :=
  match phase with
  | .lexical => { values with lexical := value }
  | .syntactic => { values with syntactic := value }
  | .semantic => { values with semantic := value }

/-- The same value for every phase. -/
def replicate (value : α) : PerPhase α := ⟨value, value, value⟩

/-- The values in the order of the phases. -/
def toList (values : PerPhase α) : List α := Phase.all.map values.get

/-- What was set for a phase is what is there, and all else is as before. -/
theorem get_set (values : PerPhase α) (phase other : Phase) (value : α) :
    (values.set phase value).get other = if other = phase then value else values.get other := by
  cases phase <;> cases other <;> rfl

end PerPhase

/-- How a phase ended, if it ran at all. -/
inductive Outcome where
  | pass
  | error (message : String)
  | skipped
deriving DecidableEq, Repr

namespace Outcome

/-- Whether a phase passed. -/
def isPass : Outcome → Bool
  | pass => true
  | error _ | skipped => false

/-- The word for an outcome. -/
def label : Outcome → String
  | pass => "PASS"
  | error _ => "ERROR"
  | skipped => "SKIP"

/-- The word for an outcome, with the message of an error. -/
def describe : Outcome → String
  | error message => "ERROR (" ++ message ++ ")"
  | outcome => outcome.label

end Outcome

end DeclLang
