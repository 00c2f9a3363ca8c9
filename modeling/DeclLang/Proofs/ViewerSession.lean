import DeclLang.Proofs.PhasePrefix
import DeclLang.Viewer.Session

/-!
# Sessions show current results

Keys run phases on the text that the viewer shows, reloading replaces the text and discards all
results together or changes neither, and drawing touches only the scroll offsets. So through any
session, whatever happens to the file meanwhile, the analysis is that of the text now shown by the
first phases.
-/

namespace DeclLang.Viewer

/-- The analysis that the viewer holds is that of its own source by the first phases. -/
def IsCurrent (v : Viewer) : Prop := ∃ k ≤ 3, v.analysis = Analysis.upTo k v.source

/-- Before any key no phase has run. -/
theorem isCurrent_start (path source : Text) : (start path source).IsCurrent :=
  ⟨0, Nat.zero_le 3, rfl⟩

variable {v : Viewer}

/-- The key of a phase attempts it on the source of the viewer, scrolls panes back to the top and
leaves a message, whether the phase is refused or not. -/
theorem exists_runPhase_eq (v : Viewer) (phase : Phase) :
    ∃ status, v.runPhase phase =
      { v with
        scrolls := v.scrolls.resetFrom phase
        analysis := v.analysis.attempt ⟨phase, v.source⟩
        status } := by
  unfold runPhase Analysis.attempt
  cases v.analysis.run phase v.source <;> exact ⟨_, rfl⟩

/-- The key of a phase keeps the source. -/
theorem source_runPhase (v : Viewer) (phase : Phase) : (v.runPhase phase).source = v.source := by
  obtain ⟨status, h⟩ := v.exists_runPhase_eq phase
  rw [h]

/-- The key of a phase is an attempt at it on the source of the viewer. -/
theorem analysis_runPhase (v : Viewer) (phase : Phase) :
    (v.runPhase phase).analysis = v.analysis.attempt ⟨phase, v.source⟩ := by
  obtain ⟨status, h⟩ := v.exists_runPhase_eq phase
  rw [h]

/-- The key of a phase leaves current results, refused or not. -/
theorem IsCurrent.runPhase (h : v.IsCurrent) (phase : Phase) : (v.runPhase phase).IsCurrent := by
  obtain ⟨k, hk, hanalysis⟩ := h
  rw [IsCurrent, source_runPhase, analysis_runPhase, hanalysis]
  exact Analysis.exists_attempt_upTo hk phase v.source

/-- Phases in turn leave current results wherever they stop. -/
theorem IsCurrent.runEach (h : v.IsCurrent) (phases : List Phase) :
    (v.runEach phases).IsCurrent := by
  induction phases generalizing v with
  | nil => exact h
  | cons phase phases ih =>
    simp only [Viewer.runEach]
    split
    · exact ih (h.runPhase phase)
    · exact h.runPhase phase

/-- Reloading discards all results with the text that they are about, or keeps both. -/
theorem IsCurrent.reload (h : v.IsCurrent) (file : Except ReadError Text) :
    (v.reload file).IsCurrent := by
  cases file with
  | error e => exact h
  | ok source => exact ⟨0, Nat.zero_le 3, rfl⟩

/-- Any key leaves current results. -/
theorem IsCurrent.press (h : v.IsCurrent) (file : Except ReadError Text) (key : Key) :
    (v.press file key).IsCurrent := by
  unfold Viewer.press
  split
  case h_4 => exact h.runPhase .lexical
  case h_5 => exact h.runPhase .syntactic
  case h_6 => exact h.runPhase .semantic
  case h_7 => exact h.runEach Phase.all
  case h_8 => exact h.reload file
  -- no other key touches the source or the analysis
  all_goals exact h

/-- Drawing leaves current results. -/
theorem IsCurrent.settle (h : v.IsCurrent) (width height : Nat) :
    (v.settle width height).IsCurrent := h

/-- An event leaves current results. -/
theorem IsCurrent.step (h : v.IsCurrent) (event : Event) : (v.step event).IsCurrent := by
  cases event with
  | key key file => exact h.press file key
  | draw width height => exact h.settle width height

/-- A session leaves current results. -/
theorem IsCurrent.after (h : v.IsCurrent) (session : List Event) :
    (v.after session).IsCurrent := by
  induction session generalizing v with
  | nil => exact h
  | cons event session ih => exact ih (h.step event)

/-- The viewer never shows results of another text. After any keys and frames, whatever reading the
file gave in between, the analysis is what the first phases make of the source that is shown, and
the tokens, if there are any, are those of that source. -/
theorem after_shows_current_results {path source : Text} {session : List Event}
    (hv : (start path source).after session = v) :
    (∃ k ≤ 3, v.analysis = Analysis.fresh.runEach v.source (Phase.all.take k)) ∧
      ∀ tokens, v.analysis.tokens = some tokens → lex v.source = .ok tokens := by
  have hcurrent : v.IsCurrent := by
    rw [← hv]
    exact (isCurrent_start path source).after session
  obtain ⟨k, hk, hanalysis⟩ := hcurrent
  refine ⟨⟨k, hk, hanalysis⟩, fun tokens htokens => ?_⟩
  rw [hanalysis] at htokens
  exact Analysis.lex_of_tokens_upTo htokens

/-- After a reload that fails and one that gives another text, all phases leave the tokens of that
other text. -/
theorem reload_shows_current_results :
    ∃ v tokens,
      (start ['f'] ['a']).after
          [.key (.char 'l') (.ok ['a']), .draw 80 24, .key (.char 'r') (.error .notFound),
            .key (.char 'r') (.ok [';', 'b']), .key (.char 'a') (.error .notFound)] = v ∧
        v.analysis.tokens = some tokens ∧ lex [';', 'b'] = .ok tokens := by
  obtain ⟨v, hv⟩ : ∃ v, (start ['f'] ['a']).after
      [.key (.char 'l') (.ok ['a']), .draw 80 24, .key (.char 'r') (.error .notFound),
        .key (.char 'r') (.ok [';', 'b']), .key (.char 'a') (.error .notFound)] = v := ⟨_, rfl⟩
  have hsource : v.source = [';', 'b'] := by
    rw [← hv]
    decide +kernel
  have htokens : v.analysis.tokens.isSome := by
    rw [← hv]
    decide +kernel
  obtain ⟨tokens, hsome⟩ := Option.isSome_iff_exists.1 htokens
  refine ⟨v, tokens, hv, hsome, ?_⟩
  rw [← hsource]
  exact (after_shows_current_results hv).2 tokens hsome

end DeclLang.Viewer
