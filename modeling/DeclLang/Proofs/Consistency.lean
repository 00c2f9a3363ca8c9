import DeclLang.Proofs.FirstError
import DeclLang.Proofs.PhaseRun

/-!
# Outcomes and products

In every analysis that runs lead to, the outcomes fit the products: a phase has passed just when its
product is there, a lexical failure comes with its error, and the findings are those on the tree. A
later phase has run only where the phase before it has passed.
-/

namespace DeclLang

namespace Analysis

/-- Findings amount to an error just when one of them is, and then to the first one. -/
theorem verdict_eq_error_iff {findings : List Finding} {message : String} :
    verdict findings = .error message ↔
      ∃ finding, Finding.IsFirstError findings finding ∧ finding.message = message := by
  simp only [← Finding.firstError?_eq_some_iff, verdict]
  cases Finding.firstError? findings <;> simp

/-- Findings amount to a pass just when none of them is an error. -/
theorem verdict_eq_pass_iff {findings : List Finding} :
    verdict findings = .pass ↔ Finding.firstError? findings = none := by
  unfold verdict
  cases Finding.firstError? findings <;> simp

/-- Findings amount to a pass or to an error. -/
theorem verdict_ne_skipped (findings : List Finding) : verdict findings ≠ .skipped := by
  unfold verdict
  cases Finding.firstError? findings <;> simp

/-- The outcomes of an analysis fit its products. -/
structure IsConsistent (a : Analysis) : Prop where
  /-- The lexical phase has passed just when there are tokens. -/
  lexical_pass : a.outcome .lexical = .pass ↔ ∃ tokens, a.tokens = some tokens
  /-- The lexical phase has failed just when there is a lexical error, with its wording. -/
  lexical_error : ∀ message, a.outcome .lexical = .error message ↔
    ∃ e, a.lexicalError = some e ∧ e.describe = message
  /-- The syntax phase has passed just when there is a tree. -/
  syntactic_pass : a.outcome .syntactic = .pass ↔ ∃ tree, a.tree = some tree
  /-- The semantic phase has run just when there are findings. -/
  semantic_ran : a.outcome .semantic ≠ .skipped ↔ ∃ findings, a.findings = some findings
  /-- The semantic phase has failed just when a finding is an error, with the first one's wording. -/
  semantic_error : ∀ message, a.outcome .semantic = .error message ↔
    ∃ findings finding, a.findings = some findings ∧ Finding.IsFirstError findings finding ∧
      finding.message = message
  /-- The syntax phase has run only where the lexical phase has passed. -/
  lexical_of_syntactic : a.outcome .syntactic ≠ .skipped → a.outcome .lexical = .pass
  /-- The semantic phase has run only where the syntax phase has passed. -/
  syntactic_of_semantic : a.outcome .semantic ≠ .skipped → a.outcome .syntactic = .pass
  /-- The findings are those on the tree, and there is always one. -/
  findings : ∀ findings, a.findings = some findings →
    findings ≠ [] ∧ ∃ tree, a.tree = some tree ∧ findings = check tree

/-- Before any phase there is no outcome and no product. -/
theorem isConsistent_fresh : fresh.IsConsistent := by
  constructor <;> simp [fresh, outcome, PerPhase.get, PerPhase.replicate]

variable {a : Analysis}

/-- A lexical run leaves tokens or an error. -/
theorem isConsistent_record_lexical (a : Analysis) (source : Text) :
    ((a.resetFrom .lexical).record .lexical source).IsConsistent := by
  unfold record resetFrom
  cases lex source <;>
    constructor <;> simp [fresh, outcome, PerPhase.get, PerPhase.set, PerPhase.replicate]

/-- A syntax run on passed tokens leaves a tree or an error. -/
theorem IsConsistent.record_syntactic (h : a.IsConsistent) (hpass : a.outcome .lexical = .pass)
    (source : Text) : ((a.resetFrom .syntactic).record .syntactic source).IsConsistent := by
  unfold record resetFrom
  cases parse source <;> exact
    { lexical_pass := h.lexical_pass
      lexical_error := h.lexical_error
      syntactic_pass := by simp [outcome, PerPhase.get, PerPhase.set]
      semantic_ran := by simp [outcome, PerPhase.get, PerPhase.set]
      semantic_error := by simp [outcome, PerPhase.get, PerPhase.set]
      lexical_of_syntactic := fun _ => hpass
      syntactic_of_semantic := fun hran => absurd rfl hran
      findings := by simp }

/-- A semantic run on a tree leaves the findings on it. -/
theorem IsConsistent.record_semantic (h : a.IsConsistent) (hpass : a.outcome .syntactic = .pass)
    (source : Text) : ((a.resetFrom .semantic).record .semantic source).IsConsistent := by
  obtain ⟨tree, htree⟩ := h.syntactic_pass.1 hpass
  have hfindings : (((a.resetFrom .semantic).tree.map check).getD []) = check tree := by
    simp [resetFrom, htree]
  unfold record
  simp only [hfindings]
  exact
    { lexical_pass := h.lexical_pass
      lexical_error := h.lexical_error
      syntactic_pass := h.syntactic_pass
      semantic_ran := ⟨fun _ => ⟨_, rfl⟩, fun _ => verdict_ne_skipped _⟩
      semantic_error := fun message => by
        simpa [outcome, PerPhase.get, PerPhase.set] using verdict_eq_error_iff
      lexical_of_syntactic := h.lexical_of_syntactic
      syntactic_of_semantic := fun _ => hpass
      findings := fun _ heq => ⟨Option.some.inj heq ▸ check_ne_nil tree, tree, htree,
        (Option.some.inj heq).symm⟩ }

/-- An attempt keeps outcomes and products together, refused or not. -/
theorem IsConsistent.attempt (h : a.IsConsistent) (r : Run) : (a.attempt r).IsConsistent := by
  rw [attempt_eq]
  split
  · rename_i hcan
    -- a run that is not refused finds the phase before its own passed
    have hpass (required : Phase) (hrequired : r.phase.required? = some required) :
        a.outcome required = .pass := by
      rw [canRun, hrequired, Option.all_some] at hcan
      exact Outcome.isPass_iff.1 hcan
    cases hphase : r.phase with
    | lexical => exact isConsistent_record_lexical a r.source
    | syntactic => exact h.record_syntactic (hpass .lexical (by rw [hphase]; rfl)) r.source
    | semantic => exact h.record_semantic (hpass .syntactic (by rw [hphase]; rfl)) r.source
  · exact h

/-- Attempts in turn keep outcomes and products together. -/
theorem IsConsistent.attemptAll (h : a.IsConsistent) (history : List Run) :
    (a.attemptAll history).IsConsistent := by
  induction history generalizing a with
  | nil => exact h
  | cons r history ih => exact ih (h.attempt r)

/-- Whatever a history leads to, outcomes and products go together, and a further run is gated: it
is refused just when its phase may not run, a refusal leaves the analysis as it was, so that the
attempt changes nothing, and an accepted run leaves the results of earlier phases as they are. -/
theorem attemptAll_consistent_and_gated {history : List Run}
    (ha : fresh.attemptAll history = a) :
    a.IsConsistent ∧ ∀ (phase : Phase) (source : Text),
      ((∃ e, a.run phase source = .error e) ↔ a.canRun phase = false) ∧
      (∀ e, a.run phase source = .error e → e.after = a) ∧
      (a.canRun phase = false → a.attempt ⟨phase, source⟩ = a) ∧
      ∀ b, a.run phase source = .ok b →
        ∀ earlier : Phase, earlier.rank < phase.rank → b.part earlier = a.part earlier := by
  refine ⟨ha ▸ isConsistent_fresh.attemptAll history, fun phase source => ⟨⟨?_, ?_⟩, ?_, ?_, ?_⟩⟩
  · rintro ⟨e, hrefused⟩
    exact (run_eq_error_iff.1 hrefused).1
  · intro hcan
    cases hrun : a.run phase source with
    | ok b => exact absurd (run_eq_ok_iff.1 hrun).1 (by simp [hcan])
    | error e => exact ⟨e, rfl⟩
  · intro e hrefused
    exact after_of_run_eq_error hrefused
  · intro hcan
    rw [attempt_eq, if_neg (by simp [hcan])]
  · intro b hrun earlier hearlier
    rw [← attempt_of_run hrun]
    exact part_attempt_of_rank_lt hearlier a

/-- After a syntax run that failed the semantic phase is refused, while another syntax run keeps the
tokens. -/
theorem refused_and_kept_after_failed_syntax :
    let a := fresh.attemptAll [⟨.lexical, "int a = 1".toList⟩, ⟨.syntactic, "int a".toList⟩]
    a.IsConsistent ∧ (a.canRun .semantic = false ∧ a.attempt ⟨.semantic, []⟩ = a) ∧
      (∃ e, a.run .semantic [] = .error e ∧ e.after = a) ∧
      ∃ b, a.run .syntactic [] = .ok b ∧ b.part .lexical = a.part .lexical := by
  intro a
  have hrefused : a.canRun .semantic = false := by decide +kernel
  have hcan : a.canRun .syntactic := by decide +kernel
  have hrun := run_of_canRun hcan []
  obtain ⟨hconsistent, hgated⟩ := attemptAll_consistent_and_gated (rfl : _ = a)
  obtain ⟨hiff, hafter, hattempt, -⟩ := hgated .semantic []
  obtain ⟨e, herror⟩ := hiff.2 hrefused
  exact ⟨hconsistent, ⟨hrefused, hattempt hrefused⟩, ⟨e, herror, hafter e herror⟩, _, hrun,
    (hgated .syntactic []).2.2.2 _ hrun .lexical (by decide)⟩

end Analysis

end DeclLang
