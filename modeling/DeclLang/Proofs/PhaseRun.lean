import DeclLang.Analysis.History

/-!
# Running one phase

A run of a phase touches only the results of that phase and of later ones: those of earlier phases
stay, and those of later phases are gone. Whether the run is accepted, and what it comes to, depends
on the earlier results alone. Hence a run makes every attempt before it at the same phase or at a
later one forgotten.
-/

namespace DeclLang

namespace Phase

/-- The number of phases before a phase. -/
def rank : Phase → Nat
  | .lexical => 0
  | .syntactic => 1
  | .semantic => 2

/-- Phases of the same rank are the same. -/
theorem rank_inj {phase other : Phase} (h : phase.rank = other.rank) : phase = other := by
  revert h
  cases phase <;> cases other <;> decide

/-- The phase that has to pass is the one before. -/
theorem rank_of_required? {phase required : Phase} (h : phase.required? = some required) :
    phase.rank = required.rank + 1 := by
  cases phase <;> cases h <;> rfl

end Phase

/-- Only a pass counts as one. -/
theorem Outcome.isPass_iff {outcome : Outcome} : outcome.isPass ↔ outcome = .pass := by
  cases outcome <;> simp [isPass]

namespace Analysis

/-- What an analysis holds of one phase: the outcome and the products of that phase only. -/
def part (phase : Phase) (a : Analysis) : Analysis :=
  match phase with
  | .lexical =>
    { fresh with
      tokens := a.tokens
      lexicalError := a.lexicalError
      outcomes := fresh.outcomes.set .lexical (a.outcome .lexical) }
  | .syntactic =>
    { fresh with
      tree := a.tree
      outcomes := fresh.outcomes.set .syntactic (a.outcome .syntactic) }
  | .semantic =>
    { fresh with
      findings := a.findings
      outcomes := fresh.outcomes.set .semantic (a.outcome .semantic) }

variable {a b : Analysis} {phase other : Phase} {source : Text}

/-- The outcome of a phase is in what is held of it. -/
@[simp] theorem outcome_part (phase : Phase) (a : Analysis) :
    (a.part phase).outcome phase = a.outcome phase := by
  cases phase <;> rfl

/-- A phase of which nothing is held has not run. -/
theorem outcome_eq_skipped (h : a.part phase = fresh.part phase) : a.outcome phase = .skipped := by
  rw [← outcome_part, h]
  cases phase <;> rfl

/-- An analysis is no more than what it holds of the phases. -/
theorem ext_part (h : ∀ phase, a.part phase = b.part phase) : a = b := by
  have hlexical := h .lexical
  have hsyntactic := h .syntactic
  have hsemantic := h .semantic
  obtain ⟨_, _, _, _, _, _, _⟩ := a
  obtain ⟨_, _, _, _, _, _, _⟩ := b
  simp_all [part, outcome, PerPhase.get, PerPhase.set]

/-- A reset keeps earlier phases and leaves nothing of the others. -/
theorem part_resetFrom (a : Analysis) (phase other : Phase) :
    (a.resetFrom phase).part other =
      if other.rank < phase.rank then a.part other else fresh.part other := by
  cases phase <;> cases other <;> rfl

/-- What is recorded of a phase is nothing of another. -/
theorem part_record (h : other ≠ phase) (a : Analysis) (source : Text) :
    (a.record phase source).part other = a.part other := by
  cases phase with
  | lexical =>
    unfold record
    cases lex source <;> cases other <;> trivial
  | syntactic =>
    unfold record
    cases parse source <;> cases other <;> trivial
  | semantic => cases other <;> trivial

/-- What is left by a reset depends on earlier phases only. -/
theorem resetFrom_congr (h : ∀ earlier : Phase, earlier.rank < phase.rank →
    a.part earlier = b.part earlier) : a.resetFrom phase = b.resetFrom phase := by
  apply ext_part
  intro other
  rw [part_resetFrom, part_resetFrom]
  split
  · exact h other ‹_›
  · rfl

/-- Whether a phase may run depends on earlier phases only. -/
theorem canRun_congr (h : ∀ earlier : Phase, earlier.rank < phase.rank →
    a.part earlier = b.part earlier) : a.canRun phase = b.canRun phase := by
  unfold canRun
  cases hrequired : phase.required? with
  | none => rfl
  | some required =>
    have hrank := Phase.rank_of_required? hrequired
    have hpart := h required (by omega)
    rw [Option.all_some, Option.all_some, ← outcome_part, hpart, outcome_part]

/-- A phase is run just when it may run, and then it resets and records. -/
theorem run_eq_ok_iff :
    a.run phase source = .ok b ↔ a.canRun phase ∧ (a.resetFrom phase).record phase source = b := by
  unfold run canRun
  cases phase.required? with
  | none => simp
  | some required => by_cases h : (a.outcome required).isPass <;> simp [h]

/-- A run is refused just when the phase may not run. The refusal leaves the analysis as it was and
names the phase that has to pass first. -/
theorem run_eq_error_iff {e : Refusal} :
    a.run phase source = .error e ↔
      a.canRun phase = false ∧ e.after = a ∧
        ∃ required, phase.required? = some required ∧ (e : Blocked) = ⟨phase, required⟩ := by
  unfold run canRun
  cases phase.required? with
  | none => simp
  | some required =>
    obtain ⟨blocked, after⟩ := e
    by_cases h : (a.outcome required).isPass <;> simp [h, and_comm, eq_comm]

/-- A refusal leaves the analysis as it was. -/
theorem after_of_run_eq_error {e : Refusal} (h : a.run phase source = .error e) : e.after = a :=
  (run_eq_error_iff.1 h).2.1

/-- An attempt resets and records if it is not refused. -/
theorem attempt_eq (a : Analysis) (r : Run) :
    a.attempt r =
      if a.canRun r.phase then (a.resetFrom r.phase).record r.phase r.source else a := by
  unfold attempt
  cases hrun : a.run r.phase r.source with
  | ok b =>
    obtain ⟨hcan, rfl⟩ := run_eq_ok_iff.1 hrun
    rw [if_pos hcan]
  | error e =>
    rw [if_neg (by simp [(run_eq_error_iff.1 hrun).1])]
    exact after_of_run_eq_error hrun

/-- An attempt that is not refused leads where the run leads. -/
theorem attempt_of_run (h : a.run phase source = .ok b) : a.attempt ⟨phase, source⟩ = b := by
  unfold attempt
  rw [h]

/-- An attempt leaves earlier phases as they are. -/
theorem part_attempt_of_rank_lt {r : Run} (h : other.rank < r.phase.rank) (a : Analysis) :
    (a.attempt r).part other = a.part other := by
  rw [attempt_eq]
  split
  · rw [part_record (by rintro rfl; omega), part_resetFrom, if_pos h]
  · rfl

/-- An attempt that is not refused leaves nothing of later phases. -/
theorem part_attempt_of_lt_rank {r : Run} (hcan : a.canRun r.phase)
    (h : r.phase.rank < other.rank) : (a.attempt r).part other = fresh.part other := by
  rw [attempt_eq, if_pos hcan, part_record (by rintro rfl; omega), part_resetFrom,
    if_neg (by omega)]

@[simp] theorem attemptAll_nil (a : Analysis) : a.attemptAll [] = a := rfl

@[simp] theorem attemptAll_cons (a : Analysis) (r : Run) (history : List Run) :
    a.attemptAll (r :: history) = (a.attempt r).attemptAll history := rfl

@[simp] theorem attemptAll_append (a : Analysis) (history later : List Run) :
    a.attemptAll (history ++ later) = (a.attemptAll history).attemptAll later :=
  List.foldl_append

/-- Attempts at a phase or at later ones leave earlier phases as they are. -/
theorem part_attemptAll {history : List Run} (h : ∀ r ∈ history, other.rank < r.phase.rank)
    (a : Analysis) : (a.attemptAll history).part other = a.part other := by
  induction history generalizing a with
  | nil => rfl
  | cons r history ih =>
    obtain ⟨hr, hhistory⟩ := List.forall_mem_cons.1 h
    exact (ih hhistory (a.attempt r)).trans (part_attempt_of_rank_lt hr a)

/-- Attempts at a phase or at later ones do not change whether it may run. -/
theorem canRun_attemptAll {history : List Run} (h : ∀ r ∈ history, phase.rank ≤ r.phase.rank)
    (a : Analysis) : (a.attemptAll history).canRun phase = a.canRun phase :=
  canRun_congr fun _ hearlier =>
    part_attemptAll (fun r hr => Nat.lt_of_lt_of_le hearlier (h r hr)) a

/-- A run makes attempts at its phase and at later ones before it forgotten. -/
theorem attempt_attemptAll {history : List Run} {r : Run}
    (h : ∀ earlier ∈ history, r.phase.rank ≤ earlier.phase.rank) (hcan : a.canRun r.phase) :
    (a.attemptAll history).attempt r = a.attempt r := by
  have hreset : (a.attemptAll history).resetFrom r.phase = a.resetFrom r.phase :=
    resetFrom_congr fun _ hother =>
      part_attemptAll (fun earlier hearlier => Nat.lt_of_lt_of_le hother (h earlier hearlier)) a
  rw [attempt_eq, attempt_eq, canRun_attemptAll h, hreset, if_pos hcan, if_pos hcan]

end Analysis

end DeclLang
