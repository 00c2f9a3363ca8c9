import DeclLang.Proofs.Consistency
import DeclLang.Proofs.ViewerSession

/-!
# Running all phases

The viewer goes on to the next phase when a phase passes, while the analysis of a source text goes
on until a phase is refused. Where each phase needs the one before it these are the same: the phase
behind one that failed is refused, and the one behind one that passed is not. The first phase
discards whatever an earlier run has left, so all phases lead to the same results from everywhere.
-/

namespace DeclLang

/-- A phase that has run has passed or failed. -/
theorem Analysis.outcome_ne_skipped_of_run {a b : Analysis} {phase : Phase} {source : Text}
    (h : a.run phase source = .ok b) : b.outcome phase ≠ .skipped := by
  obtain ⟨-, rfl⟩ := run_eq_ok_iff.1 h
  cases phase with
  | lexical => unfold record; cases lex source <;> simp [outcome, PerPhase.get, PerPhase.set]
  | syntactic => unfold record; cases parse source <;> simp [outcome, PerPhase.get, PerPhase.set]
  | semantic => exact verdict_ne_skipped _

/-- The panes of a phase are back at the top with those of the phase before it. -/
theorem Scrolls.resetFrom_resetFrom {phase next : Phase} (h : next.required? = some phase)
    (s : Scrolls) : (s.resetFrom phase).resetFrom next = s.resetFrom phase := by
  cases next <;> cases h <;> rfl

namespace Viewer

/-- The phases in turn, none of which is refused, lead from one viewer to another: to the end, where
all have passed, or to the first phase that fails. -/
inductive RunsThrough : Viewer → List Phase → Viewer → Prop
  | passed (v) : RunsThrough v [] { v with status := "All phases passed" }
  | failed {v phase later a message} :
      v.analysis.run phase v.source = .ok a → a.outcome phase = .error message →
      RunsThrough v (phase :: later) (v.runPhase phase)
  | next {v phase later a w} :
      v.analysis.run phase v.source = .ok a → a.outcome phase = .pass →
      RunsThrough (v.runPhase phase) later w → RunsThrough v (phase :: later) w

variable {v w : Viewer} {a : Analysis} {phase : Phase} {phases : List Phase}

/-- The key of a phase that is not refused shows what the run has come to. -/
theorem runPhase_of_run (h : v.analysis.run phase v.source = .ok a) :
    v.runPhase phase =
      { v with
        scrolls := v.scrolls.resetFrom phase
        analysis := a
        status := phase.name ++ " phase: " ++ (a.outcome phase).label } := by
  rw [runPhase, h]

/-- Phases that each need the one before are never refused if the first is not. -/
theorem runsThrough_runEach (hchain : phases.IsChain fun phase next => next.required? = some phase)
    (hcan : ∀ phase ∈ phases.head?, v.analysis.canRun phase) :
    RunsThrough v phases (v.runEach phases) := by
  induction phases generalizing v with
  | nil => exact .passed v
  | cons phase later ih =>
    obtain ⟨a, hrun⟩ : ∃ a, v.analysis.run phase v.source = .ok a :=
      ⟨_, Analysis.run_of_canRun (hcan phase rfl) v.source⟩
    have hanalysis : (v.runPhase phase).analysis = a := by rw [runPhase_of_run hrun]
    simp only [runEach, hanalysis]
    cases houtcome : a.outcome phase with
    | skipped => exact absurd houtcome (Analysis.outcome_ne_skipped_of_run hrun)
    | error message => exact .failed hrun houtcome
    | pass =>
      refine .next hrun houtcome (ih hchain.tail fun next hnext => ?_)
      have hrequired : next.required? = some phase := (List.isChain_cons.1 hchain).1 next hnext
      rw [hanalysis, Analysis.canRun, hrequired, Option.all_some, houtcome, Outcome.isPass]

/-- Running phases in turn touches nothing but results, scroll offsets and the message. -/
theorem RunsThrough.source_focus_eq (h : RunsThrough v phases w) :
    w.source = v.source ∧ w.focus = v.focus := by
  induction h with
  | passed => exact ⟨rfl, rfl⟩
  | failed hrun => rw [runPhase_of_run hrun]; exact ⟨rfl, rfl⟩
  | next hrun _ _ ih => rwa [runPhase_of_run hrun] at ih

/-- Running phases in turn scrolls the panes of the first of them and of later ones back. -/
theorem RunsThrough.scrolls_eq (h : RunsThrough v phases w)
    (hchain : phases.IsChain fun phase next => next.required? = some phase) :
    ∀ phase ∈ phases.head?, w.scrolls = v.scrolls.resetFrom phase := by
  induction h with
  | passed => simp
  | failed hrun => rw [runPhase_of_run hrun]; simp
  | @next v phase later a w hrun _ hlater ih =>
    simp only [List.head?_cons, Option.mem_some, forall_eq']
    have ih := ih hchain.tail
    rw [runPhase_of_run hrun] at ih hlater
    cases later with
    | nil => cases hlater; rfl
    | cons next later =>
      have hrequired := (List.isChain_cons_cons.1 hchain).1
      rw [ih next rfl, Scrolls.resetFrom_resetFrom hrequired]

/-- Running phases in turn leaves the results of earlier phases as they are. -/
theorem RunsThrough.part_eq {other : Phase} (h : RunsThrough v phases w)
    (hother : ∀ phase ∈ phases, other.rank < phase.rank) :
    w.analysis.part other = v.analysis.part other := by
  induction h with
  | passed => rfl
  | @failed v phase later a message hrun =>
    rw [analysis_runPhase]
    exact Analysis.part_attempt_of_rank_lt (hother phase (by simp)) _
  | @next v phase later a w hrun _ _ ih =>
    obtain ⟨hphase, hlater⟩ := List.forall_mem_cons.1 hother
    rw [ih hlater, analysis_runPhase]
    exact Analysis.part_attempt_of_rank_lt hphase _

/-- Going on while phases pass leads to the same results as going on until one is refused. -/
theorem RunsThrough.analysis_eq (h : RunsThrough v phases w)
    (hchain : phases.IsChain fun phase next => next.required? = some phase) :
    w.analysis = v.analysis.runEach v.source phases := by
  induction h with
  | passed => rfl
  | @failed v phase later a message hrun houtcome =>
    rw [runPhase_of_run hrun, Analysis.runEach, hrun]
    cases later with
    | nil => rfl
    | cons next later =>
      have hrequired := (List.isChain_cons_cons.1 hchain).1
      have hrefused : a.run next v.source = .error ⟨⟨next, phase⟩, a⟩ := by
        rw [Analysis.run, hrequired]
        simp [houtcome, Outcome.isPass]
      simp only [Analysis.runEach, hrefused]
  | @next v phase later a w hrun _ _ ih =>
    rw [ih hchain.tail, Analysis.runEach, hrun, runPhase_of_run hrun]

/-- Running phases in turn either passes them all and says so, or names the first that failed. -/
theorem RunsThrough.status_eq (h : RunsThrough v phases w)
    (hchain : phases.IsChain fun phase next => next.required? = some phase) :
    (w.status = "All phases passed" ∧ ∀ phase ∈ phases, w.analysis.outcome phase = .pass) ∨
      ∃ before phase later, phases = before ++ phase :: later ∧
        (∀ earlier ∈ before, w.analysis.outcome earlier = .pass) ∧
        (∃ message, w.analysis.outcome phase = .error message) ∧
        w.status = phase.name ++ " phase: ERROR" := by
  induction h with
  | passed => exact .inl ⟨rfl, by simp⟩
  | @failed v phase later a message hrun houtcome =>
    refine .inr ⟨[], phase, later, rfl, by simp, ⟨message, ?_⟩, ?_⟩ <;> rw [runPhase_of_run hrun]
    · exact houtcome
    · simp only [houtcome, Outcome.label]
      cases phase <;> rfl
  | @next v phase later a w hrun houtcome hlater ih =>
    -- the phase that passed is not touched by those behind it
    have hpass : w.analysis.outcome phase = .pass := by
      rw [← Analysis.outcome_part, hlater.part_eq fun _ => Phase.rank_lt_of_isChain hchain,
        Analysis.outcome_part, runPhase_of_run hrun, houtcome]
    rcases ih hchain.tail with ⟨hstatus, hall⟩ | ⟨before, failed, rest, rfl, hbefore, hfailed⟩
    · exact .inl ⟨hstatus, List.forall_mem_cons.2 ⟨hpass, hall⟩⟩
    · exact .inr ⟨phase :: before, failed, rest, rfl, List.forall_mem_cons.2 ⟨hpass, hbefore⟩,
        hfailed⟩

/-- The first phase forgets all earlier results. -/
theorem runEach_all_eq_analyze (a : Analysis) (source : Text) :
    a.runEach source Phase.all = analyze source := rfl

/-- Running all phases in the viewer agrees with the analysis of its text, whatever ran before. No
phase is refused on the way. The results are those of the analysis, with every pane of a phase back
at the top, and the text, the focus and the offset of the source as they were. The message says that
all passed just when the analysis is clean, and else names the first phase that failed. -/
theorem press_all_agrees_with_analyze (v : Viewer) (file : Except ReadError Text) :
    ∃ w, v.press file (.char 'a') = w ∧ RunsThrough v Phase.all w ∧
      w.analysis = analyze v.source ∧
      w.scrolls = ⟨v.scrolls.source, 0, 0, 0⟩ ∧ w.source = v.source ∧ w.focus = v.focus ∧
      (w.status = "All phases passed" ↔ (analyze v.source).isClean) ∧
      ((analyze v.source).isClean ∨
        ∃ before phase later, Phase.all = before ++ phase :: later ∧
          (∀ earlier ∈ before, (analyze v.source).outcome earlier = .pass) ∧
          (∃ message, (analyze v.source).outcome phase = .error message) ∧
          w.status = phase.name ++ " phase: ERROR") := by
  have hruns : RunsThrough v Phase.all (v.runEach Phase.all) :=
    runsThrough_runEach Phase.isChain_all fun phase hphase => by cases hphase; rfl
  have hanalysis : (v.runEach Phase.all).analysis = analyze v.source :=
    (hruns.analysis_eq Phase.isChain_all).trans (runEach_all_eq_analyze _ _)
  have hscrolls := hruns.scrolls_eq Phase.isChain_all .lexical rfl
  have hclean : (analyze v.source).isClean ↔
      ∀ phase ∈ Phase.all, (analyze v.source).outcome phase = .pass := by
    simp only [Analysis.isClean, List.all_eq_true, Outcome.isPass_iff]
  obtain ⟨hsource, hfocus⟩ := hruns.source_focus_eq
  refine ⟨v.runEach Phase.all, rfl, hruns, hanalysis, hscrolls, hsource, hfocus, ?_⟩
  have hstatus := hruns.status_eq Phase.isChain_all
  rw [hanalysis] at hstatus
  rcases hstatus with ⟨hstatus, hpass⟩ | hfailed
  · exact ⟨iff_of_true hstatus (hclean.2 hpass), .inl (hclean.2 hpass)⟩
  · refine ⟨iff_of_false ?_ ?_, .inr hfailed⟩
    · obtain ⟨before, phase, later, -, -, -, hstatus⟩ := hfailed
      rw [hstatus]
      cases phase <;> decide
    · rw [hclean]
      obtain ⟨before, phase, later, hall, -, ⟨message, hmessage⟩, -⟩ := hfailed
      intro hpass
      rw [hpass phase (by rw [hall]; simp)] at hmessage
      cases hmessage

end Viewer

end DeclLang
