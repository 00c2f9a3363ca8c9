import DeclLang.Proofs.DrawnFrame

/-!
# Refused keys

The key of a phase scrolls panes back to the top even when the phase is refused, so a refused key
does change the viewer. But those panes have nothing to scroll: where a phase is refused, neither it
nor any later one has run, and a pane without a product shows a notice wherever it is scrolled to.
Two viewers that differ only in the offsets of such panes look alike and stay so, since a phase that
runs scrolls its pane back to the top in both.
-/

namespace DeclLang

namespace Analysis

variable {a : Analysis} {phase other : Phase} {source : Text}

/-- An analysis holds nothing of a phase where the phase that it needs has not passed. -/
def IsGated (a : Analysis) : Prop :=
  ∀ phase required : Phase, phase.required? = some required → a.outcome required ≠ .pass →
    a.part phase = fresh.part phase

/-- An attempt leaves a gated analysis. -/
theorem IsGated.attempt (h : a.IsGated) (r : Run) : (a.attempt r).IsGated := by
  by_cases hcan : a.canRun r.phase
  · intro phase required hrequired houtcome
    have hrank := Phase.rank_of_required? hrequired
    rcases Nat.lt_or_ge r.phase.rank phase.rank with hlater | hearlier
    · exact part_attempt_of_lt_rank hcan hlater
    · -- the attempt is at this phase or at a later one, so what this one needs is as before
      have hkept : (a.attempt r).outcome required = a.outcome required := by
        rw [← outcome_part, part_attempt_of_rank_lt (by omega), outcome_part]
      rw [hkept] at houtcome
      rcases Nat.lt_or_eq_of_le hearlier with hearlier | hsame
      · rw [part_attempt_of_rank_lt hearlier, h phase required hrequired houtcome]
      · rw [← Phase.rank_inj hsame, canRun, hrequired, Option.all_some] at hcan
        exact absurd (Outcome.isPass_iff.1 hcan) houtcome
  · rwa [attempt_eq, if_neg hcan]

/-- Attempts in turn leave a gated analysis. -/
theorem IsGated.attemptAll (h : a.IsGated) (history : List Run) :
    (a.attemptAll history).IsGated := by
  induction history generalizing a with
  | nil => exact h
  | cons r history ih => exact ih (h.attempt r)

/-- Where a phase may not run, nothing is held of it or of any later one. -/
theorem IsGated.part_eq_fresh (h : a.IsGated) (hcan : a.canRun phase = false)
    (hle : phase.rank ≤ other.rank) : a.part other = fresh.part other := by
  induction hrank : other.rank generalizing other with
  | zero =>
    obtain rfl : phase = other := Phase.rank_inj (by omega)
    cases phase <;> cases hrank
    cases hcan
  | succ n ih =>
    cases hrequired : other.required? with
    | none => cases other <;> cases hrequired; cases hrank
    | some required =>
      have hprevious := Phase.rank_of_required? hrequired
      apply h other required hrequired
      rcases Nat.lt_or_eq_of_le hle with hlt | heq
      · have hpart : a.part required = fresh.part required := ih (by omega) (by omega)
        rw [outcome_eq_skipped hpart]
        exact Outcome.noConfusion
      · rw [Phase.rank_inj heq, canRun, hrequired, Option.all_some] at hcan
        intro hpass
        simp [hpass, Outcome.isPass] at hcan

end Analysis

/-- The phase whose product a pane shows; the source is no phase's. -/
def PaneName.phase? : PaneName → Option Phase
  | source => none
  | tokens => some .lexical
  | tree => some .syntactic
  | findings => some .semantic

namespace Scrolls

/-- A reset puts the panes of its phase and of later ones at the top. -/
theorem get_resetFrom (s : Scrolls) (phase : Phase) (name : PaneName) :
    (s.resetFrom phase).get name =
      if name.phase?.any (phase.rank ≤ ·.rank) then 0 else s.get name := by
  cases phase <;> cases name <;> rfl

/-- Scrolling moves the pane with the focus only. -/
theorem get_modify (s : Scrolls) (f : Nat → Nat) (focus name : PaneName) :
    (s.modify f focus).get name = if name = focus then f (s.get name) else s.get name := by
  cases focus <;> cases name <;> rfl

end Scrolls

/-- A notice is drawn in the same way at every scroll offset. -/
theorem Pane.draw?_of_notice {p : Pane} {line : Line} {base : Style}
    (h : p.content = .notice line base) (colors : BorderColors) (focused : Bool)
    (width height scroll other : Nat) :
    p.draw? colors focused width height scroll = p.draw? colors focused width height other := by
  simp only [draw?, h]

/-- The phase that a key runs by itself. -/
def Key.phase? : Key → Option Phase
  | .char 'l' => some .lexical
  | .char 'p' => some .syntactic
  | .char 'c' => some .semantic
  | _ => none

namespace Viewer

variable {v w : Viewer} {phase : Phase} {name : PaneName}

/-- The key of a phase runs it. -/
theorem press_of_phase? {key : Key} (h : key.phase? = some phase) (v : Viewer)
    (file : Except ReadError Text) : v.press file key = v.runPhase phase := by
  unfold Key.phase? at h
  split at h <;> cases h <;> rfl

/-- A pane is idle while nothing is held of its phase. -/
def IsIdle (v : Viewer) (name : PaneName) : Prop :=
  ∃ phase, name.phase? = some phase ∧ v.analysis.part phase = Analysis.fresh.part phase

/-- An idle pane shows a notice. -/
theorem IsIdle.exists_notice (h : v.IsIdle name) :
    ∃ line base, (v.pane name).content = .notice line base := by
  obtain ⟨phase, hname, hpart⟩ := h
  have houtcome := Analysis.outcome_eq_skipped hpart
  cases name with
  | source => cases hname
  | tokens =>
    cases hname
    have htokens : v.analysis.tokens = none := congrArg Analysis.tokens hpart
    exact ⟨_, _, by rw [pane, houtcome, htokens]; rfl⟩
  | tree =>
    cases hname
    have htree : v.analysis.tree = none := congrArg Analysis.tree hpart
    exact ⟨_, _, by rw [pane, houtcome, htree]; rfl⟩
  | findings =>
    cases hname
    have hfindings : v.analysis.findings = none := congrArg Analysis.findings hpart
    exact ⟨_, _, by rw [pane, houtcome, hfindings]; rfl⟩

/-- A pane that is idle stays so under the key of a later phase. -/
theorem IsIdle.runPhase (h : v.IsIdle name)
    (hname : ¬ name.phase?.any (phase.rank ≤ ·.rank)) : (v.runPhase phase).IsIdle name := by
  obtain ⟨own, hown, hpart⟩ := h
  have hrank : own.rank < phase.rank := by simpa [hown] using hname
  refine ⟨own, hown, ?_⟩
  rw [analysis_runPhase, Analysis.part_attempt_of_rank_lt hrank, hpart]

/-- Two viewers look alike when they differ in nothing but their messages, the paths of their files
and the offsets of idle panes. -/
structure Alike (v w : Viewer) : Prop where
  source : v.source = w.source
  analysis : v.analysis = w.analysis
  focus : v.focus = w.focus
  quitting : v.quitting = w.quitting
  scrolls : ∀ name, v.scrolls.get name = w.scrolls.get name ∨ v.IsIdle name

/-- A refused phase changes nothing that can be seen in a pane. -/
theorem alike_runPhase_of_refused {refusal : Refusal} (hgated : v.analysis.IsGated)
    (h : v.analysis.run phase v.source = .error refusal) : Alike (v.runPhase phase) v := by
  have hcan := (Analysis.run_eq_error_iff.1 h).1
  rw [runPhase, h]
  simp only [Analysis.after_of_run_eq_error h]
  refine ⟨rfl, rfl, rfl, rfl, fun name => ?_⟩
  simp only [Scrolls.get_resetFrom]
  split
  · rename_i hreset
    obtain ⟨own, hown, hrank⟩ := (Option.any_eq_true _ _).1 hreset
    exact .inr ⟨own, hown, hgated.part_eq_fresh hcan (by simpa using hrank)⟩
  · exact .inl rfl

/-- The key of a phase keeps viewers alike: what it scrolls back it scrolls back in both, and what
it does not keeps its results. -/
theorem Alike.runPhase (h : Alike v w) (phase : Phase) :
    Alike (v.runPhase phase) (w.runPhase phase) := by
  have hidle (name : PaneName) (hname : v.IsIdle name)
      (hreset : ¬ name.phase?.any (phase.rank ≤ ·.rank)) : (v.runPhase phase).IsIdle name :=
    hname.runPhase hreset
  obtain ⟨status, hv⟩ := v.exists_runPhase_eq phase
  obtain ⟨other, hw⟩ := w.exists_runPhase_eq phase
  rw [hv] at hidle ⊢
  rw [hw]
  refine ⟨h.source, by simp only [h.analysis, h.source], h.focus, h.quitting, fun name => ?_⟩
  simp only [Scrolls.get_resetFrom]
  split
  · exact .inl rfl
  · rename_i hreset
    exact (h.scrolls name).imp_right fun hname => hidle name hname hreset

/-- Phases in turn keep viewers alike, since they stop at the same phase in both. -/
theorem Alike.runEach (h : Alike v w) (phases : List Phase) :
    Alike (v.runEach phases) (w.runEach phases) := by
  induction phases generalizing v w with
  | nil => exact ⟨h.source, h.analysis, h.focus, h.quitting, h.scrolls⟩
  | cons phase phases ih =>
    have hnext := h.runPhase phase
    simp only [Viewer.runEach, hnext.analysis]
    split
    · exact ih hnext
    · exact hnext

/-- Reloading keeps viewers alike. -/
theorem Alike.reload (h : Alike v w) (file : Except ReadError Text) :
    Alike (v.reload file) (w.reload file) := by
  cases file with
  | error e => exact ⟨h.source, h.analysis, h.focus, h.quitting, h.scrolls⟩
  | ok source => exact ⟨rfl, rfl, h.focus, h.quitting, fun _ => .inl rfl⟩

/-- Scrolling the pane with the focus keeps viewers alike. -/
theorem Alike.scroll (h : Alike v w) (f : Nat → Nat) :
    Alike { v with scrolls := v.scrolls.modify f v.focus }
      { w with scrolls := w.scrolls.modify f w.focus } := by
  refine ⟨h.source, h.analysis, h.focus, h.quitting, fun name => ?_⟩
  refine (h.scrolls name).imp_left fun hscroll => ?_
  simp only [Scrolls.get_modify, h.focus, hscroll]

/-- A key keeps viewers alike. -/
theorem Alike.press (h : Alike v w) (file : Except ReadError Text) (key : Key) :
    Alike (v.press file key) (w.press file key) := by
  unfold Viewer.press
  split
  case h_4 => exact h.runPhase .lexical
  case h_5 => exact h.runPhase .syntactic
  case h_6 => exact h.runPhase .semantic
  case h_7 => exact h.runEach Phase.all
  case h_8 => exact h.reload file
  case h_9 => exact ⟨h.source, h.analysis, congrArg PaneName.next h.focus, h.quitting, h.scrolls⟩
  case h_10 =>
    exact ⟨h.source, h.analysis, congrArg PaneName.previous h.focus, h.quitting, h.scrolls⟩
  case h_11 => exact h.scroll (· - 1)
  case h_12 => exact h.scroll Scrolls.down
  -- the keys left over quit or do nothing
  all_goals exact ⟨h.source, h.analysis, h.focus, by first | rfl | exact h.quitting, h.scrolls⟩

/-- Viewers that look alike have the same content in their panes. -/
theorem Alike.pane_eq (h : Alike v w) (name : PaneName) : v.pane name = w.pane name := by
  cases name <;> simp only [pane, h.source, h.analysis]

/-- Drawing keeps viewers alike: it settles panes with the same rows at the same offsets, and idle
ones nowhere else. -/
theorem Alike.settle (h : Alike v w) (width height : Nat) :
    Alike (v.settle width height) (w.settle width height) := by
  refine ⟨h.source, h.analysis, h.focus, h.quitting, fun name => ?_⟩
  refine (h.scrolls name).imp_left fun hscroll => ?_
  rw [get_scrolls_settle, get_scrolls_settle, h.pane_eq, hscroll]

/-- An event keeps viewers alike. -/
theorem Alike.step (h : Alike v w) (event : Event) : Alike (v.step event) (w.step event) := by
  cases event with
  | key key file => exact h.press file key
  | draw width height => exact h.settle width height

/-- A session keeps viewers alike. -/
theorem Alike.after (h : Alike v w) (session : List Event) :
    Alike (v.after session) (w.after session) := by
  induction session generalizing v w with
  | nil => exact h
  | cons event session ih => exact ih (h.step event)

/-- Viewers that look alike have the same panes. -/
theorem Alike.drawPane?_eq (h : Alike v w) (width height : Nat) (name : PaneName) :
    v.drawPane? width height name = w.drawPane? width height name := by
  unfold drawPane?
  simp only [← h.pane_eq, ← h.focus]
  rcases h.scrolls name with hscroll | hidle
  · rw [hscroll]
  · obtain ⟨line, base, hnotice⟩ := hidle.exists_notice
    exact Pane.draw?_of_notice hnotice _ _ _ _ _ _

/-- Current results are gated. -/
theorem IsCurrent.isGated (h : v.IsCurrent) : v.analysis.IsGated := by
  obtain ⟨k, -, hanalysis⟩ := h
  rw [hanalysis, Analysis.upTo_eq_attemptAll]
  exact Analysis.IsGated.attemptAll (fun _ _ _ _ => rfl) _

/-- The key of a refused phase is never seen in a pane. Wherever keys, frames and changes of the
file lead to, press the key of a phase that is refused there or do not, and let any keys, frames and
changes of the file follow: both runs can draw a frame of every size, the four panes of the two
frames are the same, and both runs quit together. -/
theorem refused_key_changes_no_pane {path source : Text} {history : List Event} {key : Key}
    {refusal : Refusal} (hv : (start path source).after history = v)
    (hkey : key.phase? = some phase)
    (hrefused : v.analysis.run phase v.source = .error refusal) (file : Except ReadError Text)
    (session : List Event) (width height : Nat) :
    ((v.press file key).after session).quitting = (v.after session).quitting ∧
      ∃ f g, ((v.press file key).after session).frame? width height = some f ∧
        (v.after session).frame? width height = some g ∧
        f.source = g.source ∧ f.tokens = g.tokens ∧ f.tree = g.tree ∧ f.findings = g.findings := by
  have hcurrent : v.IsCurrent := by
    rw [← hv]
    exact (isCurrent_start path source).after history
  have halike : Alike ((v.press file key).after session) (v.after session) := by
    rw [press_of_phase? hkey]
    exact (alike_runPhase_of_refused hcurrent.isGated hrefused).after session
  obtain ⟨f, hf⟩ := ((hcurrent.press file key).after session).exists_frame? width height
  obtain ⟨g, hg⟩ := (hcurrent.after session).exists_frame? width height
  refine ⟨halike.quitting, f, g, hf, hg, ?_⟩
  obtain ⟨hsource, htokens, htree, hfindings, -⟩ := frame?_eq_some_iff.1 hf
  obtain ⟨hsource', htokens', htree', hfindings', -⟩ := frame?_eq_some_iff.1 hg
  rw [halike.drawPane?_eq] at hsource htokens htree hfindings
  exact ⟨Option.some.inj (hsource.symm.trans hsource'),
    Option.some.inj (htokens.symm.trans htokens'), Option.some.inj (htree.symm.trans htree'),
    Option.some.inj (hfindings.symm.trans hfindings')⟩

/-- A refused semantic phase scrolls the findings back, and yet all frames after it show the same
findings, also once all phases have run. -/
theorem scrolled_findings_refused :
    ∃ v, (start ['f'] [';']).after
        [.key .tab (.error .notFound), .key .tab (.error .notFound), .key .down (.error .notFound)]
          = v ∧
      v.scrolls.findings = 1 ∧ (v.press (.error .notFound) (.char 'c')).scrolls.findings = 0 ∧
      ∃ f g,
        ((v.press (.error .notFound) (.char 'c')).after
          [.draw 80 24, .key (.char 'a') (.error .notFound)]).frame? 80 24 = some f ∧
        (v.after [.draw 80 24, .key (.char 'a') (.error .notFound)]).frame? 80 24 = some g ∧
        f.findings = g.findings := by
  refine ⟨_, rfl, rfl, rfl, ?_⟩
  have hkey : (Key.char 'c').phase? = some .semantic := rfl
  obtain ⟨-, f, g, hf, hg, -, -, -, hfindings⟩ := refused_key_changes_no_pane
    (rfl : (start ['f'] [';']).after [.key .tab (.error .notFound), .key .tab (.error .notFound),
      .key .down (.error .notFound)] = _) hkey rfl (.error .notFound)
    [.draw 80 24, .key (.char 'a') (.error .notFound)] 80 24
  exact ⟨f, g, hf, hg, hfindings⟩

end Viewer

end DeclLang
