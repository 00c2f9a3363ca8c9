import DeclLang.Proofs.PhaseRun
import Mathlib.Data.List.Chain

/-!
# The first phases of an analysis

An analysis that has got as far as some phase holds what the phases up to it make of the source, and
nothing else. An attempt at any phase on the same source leads to an analysis of this kind again:
one that is accepted makes its phase the last of those that have run, and one that is refused
changes nothing.
-/

namespace DeclLang

namespace Phase

/-- The first phases are those whose rank is below their number. -/
theorem rank_lt_of_mem_take {phase : Phase} {k : Nat} (h : phase ∈ all.take k) :
    phase.rank < k := by
  by_contra hle
  have hmem : phase ∈ all.take phase.rank := List.take_subset_take_left all (Nat.not_lt.1 hle) h
  revert hmem
  cases phase <;> decide

/-- From a phase on no phase has a lower rank. -/
theorem rank_le_of_mem_drop {phase other : Phase} (h : other ∈ all.drop phase.rank) :
    phase.rank ≤ other.rank := by
  revert h
  cases phase <;> cases other <;> decide

/-- A phase comes right behind those of a lower rank. -/
theorem take_rank_succ (phase : Phase) :
    all.take (phase.rank + 1) = all.take phase.rank ++ [phase] := by
  cases phase <;> rfl

/-- Each phase needs the one before it. -/
theorem isChain_all : all.IsChain fun phase next => next.required? = some phase := by decide

/-- In a list where each phase needs the one before it, later phases have higher ranks. -/
theorem rank_lt_of_isChain {phase next : Phase} {phases : List Phase}
    (h : (phase :: phases).IsChain fun phase next => next.required? = some phase)
    (hnext : next ∈ phases) : phase.rank < next.rank := by
  have hranks : ((phase :: phases).map rank).IsChain (· < ·) := by
    rw [List.isChain_map]
    exact h.imp fun _ _ hrequired => by rw [rank_of_required? hrequired]; exact Nat.lt_succ_self _
  exact hranks.rel_cons (List.mem_map_of_mem hnext)

end Phase

namespace Analysis

variable {a : Analysis} {phase other : Phase} {k : Nat} {source : Text}

/-- A phase may not run while there is nothing of the phase that it needs. -/
theorem canRun_eq_false {required : Phase} (h : phase.required? = some required)
    (hnone : a.part required = fresh.part required) : a.canRun phase = false := by
  rw [canRun, h, Option.all_some, outcome_eq_skipped hnone, Outcome.isPass]

/-- Attempts at earlier phases leave nothing of a phase where there was nothing. -/
theorem part_attemptAll_eq_fresh {history : List Run}
    (h : ∀ r ∈ history, r.phase.rank < other.rank) (hnone : a.part other = fresh.part other) :
    (a.attemptAll history).part other = fresh.part other := by
  induction history generalizing a with
  | nil => exact hnone
  | cons r history ih =>
    obtain ⟨hr, hhistory⟩ := List.forall_mem_cons.1 h
    apply ih hhistory
    by_cases hcan : a.canRun r.phase
    · exact part_attempt_of_lt_rank hcan hr
    · rw [attempt_eq, if_neg hcan, hnone]

/-- Phases in turn stop at one that is refused. -/
theorem runEach_of_run_eq_error {e : Refusal} (h : a.run phase source = .error e)
    (later : List Phase) : a.runEach source (phase :: later) = a := by
  simp only [runEach, h]
  exact after_of_run_eq_error h

/-- Phases in turn, each of which needs the one before it, run just as far as attempts at them are
accepted. -/
theorem runEach_eq_attemptAll {phases : List Phase}
    (hchain : phases.IsChain fun phase next => next.required? = some phase)
    (hnone : ∀ phase ∈ phases, a.part phase = fresh.part phase) :
    a.runEach source phases = a.attemptAll (phases.map (⟨·, source⟩)) := by
  induction phases generalizing a with
  | nil => rfl
  | cons phase phases ih =>
    obtain ⟨hphase, hphases⟩ := List.forall_mem_cons.1 hnone
    cases hrun : a.run phase source with
    | ok b =>
      rw [runEach, hrun, List.map_cons, attemptAll_cons, attempt_of_run hrun]
      apply ih hchain.tail
      intro next hnext
      rw [← attempt_of_run hrun]
      exact part_attempt_of_lt_rank (run_eq_ok_iff.1 hrun).1 (Phase.rank_lt_of_isChain hchain hnext)
    | error e =>
      -- the next phase needs the refused one, so nothing later is accepted either
      have hrefused : a.attempt ⟨phase, source⟩ = a := by
        rw [attempt_eq, if_neg (by simp [(run_eq_error_iff.1 hrun).1])]
      have hlater : a.runEach source phases = a := by
        cases phases with
        | nil => rfl
        | cons next phases =>
          have hcan := canRun_eq_false (List.isChain_cons_cons.1 hchain).1 hphase
          cases hnext : a.run next source with
          | ok b => exact absurd (run_eq_ok_iff.1 hnext).1 (by simp [hcan])
          | error e => exact runEach_of_run_eq_error hnext phases
      rw [runEach_of_run_eq_error hrun, List.map_cons, attemptAll_cons, hrefused,
        ← ih hchain.tail hphases, hlater]

/-- The analysis of a source by the first phases only, as many as the given number. -/
def upTo (k : Nat) (source : Text) : Analysis := fresh.runEach source (Phase.all.take k)

/-- The first phases run by attempts at them. -/
theorem upTo_eq_attemptAll (k : Nat) (source : Text) :
    upTo k source = fresh.attemptAll ((Phase.all.take k).map (⟨·, source⟩)) :=
  runEach_eq_attemptAll (Phase.isChain_all.take k) fun _ _ => rfl

/-- A phase runs on what the phases before it make of the source. -/
theorem attempt_upTo_rank (phase : Phase) (source : Text) :
    (upTo phase.rank source).attempt ⟨phase, source⟩ = upTo (phase.rank + 1) source := by
  rw [upTo_eq_attemptAll, upTo_eq_attemptAll, Phase.take_rank_succ, List.map_append,
    attemptAll_append]
  rfl

/-- A phase may run only when all phases before it have. -/
theorem rank_le_of_canRun_upTo (h : (upTo k source).canRun phase) : phase.rank ≤ k := by
  by_contra hlt
  cases hrequired : phase.required? with
  | none => cases phase <;> first | contradiction | exact hlt (Nat.zero_le k)
  | some required =>
    have hrank := Phase.rank_of_required? hrequired
    have hnone : (upTo k source).part required = fresh.part required := by
      rw [upTo_eq_attemptAll]
      apply part_attemptAll_eq_fresh _ rfl
      intro r hr
      obtain ⟨earlier, hearlier, rfl⟩ := List.mem_map.1 hr
      have := Phase.rank_lt_of_mem_take hearlier
      simp only
      omega
    simp [canRun_eq_false hrequired hnone] at h

/-- An attempt at a phase that may run makes it the last of those that have run. -/
theorem attempt_upTo_of_canRun (h : (upTo k source).canRun phase) :
    (upTo k source).attempt ⟨phase, source⟩ = upTo (phase.rank + 1) source := by
  obtain ⟨later, hparts, hlater⟩ : ∃ later : List Run,
      upTo k source = (upTo phase.rank source).attemptAll later ∧
        ∀ r ∈ later, phase.rank ≤ r.phase.rank := by
    refine ⟨((Phase.all.drop phase.rank).take (k - phase.rank)).map (⟨·, source⟩), ?_, ?_⟩
    · rw [upTo_eq_attemptAll, upTo_eq_attemptAll, ← attemptAll_append, ← List.map_append,
        ← List.take_add, Nat.add_sub_cancel' (rank_le_of_canRun_upTo h)]
    · intro r hr
      obtain ⟨next, hnext, rfl⟩ := List.mem_map.1 hr
      exact Phase.rank_le_of_mem_drop (List.mem_of_mem_take hnext)
  rw [hparts, canRun_attemptAll hlater] at h
  rw [hparts, attempt_attemptAll hlater h, attempt_upTo_rank]

/-- An attempt leads from the first phases to the first phases. -/
theorem exists_attempt_upTo (hk : k ≤ 3) (phase : Phase) (source : Text) :
    ∃ m ≤ 3, (upTo k source).attempt ⟨phase, source⟩ = upTo m source := by
  by_cases hcan : (upTo k source).canRun phase
  · refine ⟨phase.rank + 1, ?_, attempt_upTo_of_canRun hcan⟩
    cases phase <;> decide
  · exact ⟨k, hk, by rw [attempt_eq, if_neg hcan]⟩

/-- Later phases keep what the lexical phase left. -/
theorem part_lexical_upTo (k : Nat) (source : Text) :
    (upTo (k + 1) source).part .lexical = (fresh.record .lexical source).part .lexical := by
  have hfirst : fresh.attempt ⟨.lexical, source⟩ = fresh.record .lexical source :=
    attempt_of_run (run_of_canRun rfl source)
  rw [upTo_eq_attemptAll, Phase.all, List.take_succ_cons, List.map_cons, attemptAll_cons, hfirst]
  apply part_attemptAll
  intro r hr
  obtain ⟨later, hlater, rfl⟩ := List.mem_map.1 hr
  exact Phase.rank_lt_of_isChain Phase.isChain_all (List.mem_of_mem_take hlater)

/-- The tokens that the first phases leave are those of the source. -/
theorem lex_of_tokens_upTo {tokens : List Token} (h : (upTo k source).tokens = some tokens) :
    lex source = .ok tokens := by
  cases k with
  | zero => contradiction
  | succ k =>
    have htokens : (fresh.record .lexical source).tokens = some tokens :=
      (congrArg Analysis.tokens (part_lexical_upTo k source)).symm.trans h
    unfold record at htokens
    cases hlex : lex source with
    | error e => simp [hlex, fresh] at htokens
    | ok found => simpa [hlex] using htokens

/-- The lexical error that the first phases leave is that of the source, and there are no tokens. -/
theorem lex_of_lexicalError_upTo {e : LexicalError} (h : (upTo k source).lexicalError = some e) :
    lex source = .error e ∧ (upTo k source).tokens = none := by
  cases k with
  | zero => contradiction
  | succ k =>
    have hpart := part_lexical_upTo k source
    have herror : (fresh.record .lexical source).lexicalError = some e :=
      (congrArg Analysis.lexicalError hpart).symm.trans h
    have htokens : (upTo (k + 1) source).tokens = (fresh.record .lexical source).tokens :=
      (congrArg Analysis.tokens hpart :)
    rw [htokens]
    unfold record at herror ⊢
    cases hlex : lex source with
    | error found => exact ⟨by simpa [hlex] using herror, rfl⟩
    | ok tokens => simp [hlex, fresh] at herror

end Analysis

end DeclLang
