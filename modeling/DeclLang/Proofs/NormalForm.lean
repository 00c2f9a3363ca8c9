import DeclLang.Proofs.PhaseRun
import Mathlib.Data.List.Infix

/-!
# The normal form of a history

What a history of runs leads to is what at most three of its runs lead to: the last lexical run,
the last syntax run accepted after it, and the last semantic run accepted after that. All else is
refused or forgotten.
-/

namespace DeclLang

namespace Phase

/-- In the order of the phases a phase comes behind those before it, and right behind the one that
it needs. -/
theorem of_mem_tail {phase later : Phase} {phases : List Phase} (h : phase :: phases <:+ all)
    (hlater : later ∈ phases) :
    phase.rank < later.rank ∧ ∃ required ∈ phase :: phases, later.required? = some required := by
  have key : ∀ suffix ∈ all.tails, ∀ phase ∈ suffix.head?, ∀ later ∈ suffix.tail,
      phase.rank < later.rank ∧ ∃ required ∈ suffix, later.required? = some required := by
    decide
  exact key _ ((List.mem_tails _ _).2 h) phase rfl later hlater

end Phase

namespace History

variable {phase : Phase} {r : Run} {history later : List Run}

/-- Without a last run of a phase there is no run of it. -/
theorem cutAtLast?_eq_none (h : cutAtLast? phase history = none) :
    ∀ r ∈ history, r.phase ≠ phase := by
  induction history with
  | nil => simp
  | cons first rest ih =>
    unfold cutAtLast? at h
    split at h
    · contradiction
    · rename_i hrest
      have hfirst : first.phase ≠ phase := by simpa using h
      exact List.forall_mem_cons.2 ⟨hfirst, ih hrest⟩

/-- The last run of a phase has no run of it behind it. -/
theorem cutAtLast?_eq_some (h : cutAtLast? phase history = some (r, later)) :
    r.phase = phase ∧ (∀ r ∈ later, r.phase ≠ phase) ∧
      ∃ before, history = before ++ r :: later := by
  induction history with
  | nil => contradiction
  | cons first rest ih =>
    unfold cutAtLast? at h
    split at h
    · rename_i hrest
      cases h
      obtain ⟨hphase, hlater, before, rfl⟩ := ih hrest
      exact ⟨hphase, hlater, first :: before, rfl⟩
    · rename_i hrest
      obtain ⟨hphase, hcut⟩ := Option.ite_none_right_eq_some.1 h
      cases hcut
      exact ⟨hphase, cutAtLast?_eq_none hrest, [], rfl⟩

end History

namespace Analysis

/-- No attempt of a history is refused. -/
def Accepts (a : Analysis) : List Run → Prop
  | [] => True
  | r :: rest => a.canRun r.phase ∧ (a.attempt r).Accepts rest

variable {a : Analysis}

/-- The accepted attempts of a history are accepted when nothing else is attempted. -/
theorem accepts_accepted (a : Analysis) (history : List Run) :
    a.Accepts (a.accepted history) := by
  induction history generalizing a with
  | nil => trivial
  | cons r history ih =>
    unfold accepted
    split
    · exact ⟨‹_›, ih _⟩
    · exact ih a

/-- The accepted attempts of a history lead to what the history leads to. -/
theorem attemptAll_accepted (a : Analysis) (history : List Run) :
    a.attemptAll (a.accepted history) = a.attemptAll history := by
  induction history generalizing a with
  | nil => rfl
  | cons r history ih =>
    unfold accepted
    split
    · exact ih (a.attempt r)
    · rename_i hcan
      have hrefused : a.attempt r = a := by rw [attempt_eq, if_neg hcan]
      rw [ih a, attemptAll_cons, hrefused]

/-- A history is accepted in two parts. -/
theorem accepts_append {history later : List Run} :
    a.Accepts (history ++ later) ↔ a.Accepts history ∧ (a.attemptAll history).Accepts later := by
  induction history generalizing a with
  | nil => simp [Accepts]
  | cons r history ih => simp [Accepts, ih, and_assoc]

/-- Where no phase from some phase on has passed, accepted attempts at these phases lead to what
the last ones of the phases in turn lead to. -/
theorem attemptAll_essence {phases : List Phase} (hphases : phases <:+ Phase.all)
    {history : List Run} (haccepts : a.Accepts history)
    (hhistory : ∀ r ∈ history, r.phase ∈ phases)
    (hnone : ∀ phase ∈ phases, (a.outcome phase).isPass = false) :
    a.Accepts (History.essence phases history) ∧
      a.attemptAll (History.essence phases history) = a.attemptAll history := by
  induction phases generalizing a history with
  | nil =>
    rw [List.eq_nil_iff_forall_not_mem.2 fun r hr => List.not_mem_nil (hhistory r hr)]
    exact ⟨trivial, rfl⟩
  | cons phase phases ih =>
    have htail : phases <:+ Phase.all := (List.suffix_cons _ _).trans hphases
    have hrank (r : Run) (hr : r ∈ history) : phase.rank ≤ r.phase.rank := by
      rcases List.mem_cons.1 (hhistory r hr) with heq | hlater
      · exact Nat.le_of_eq (congrArg Phase.rank heq.symm)
      · exact (Phase.of_mem_tail hphases hlater).1.le
    rw [History.essence]
    cases hcut : History.cutAtLast? phase history with
    | none =>
      -- the first attempt is at a later phase, which needs one that has not passed
      cases history with
      | nil => exact ⟨trivial, rfl⟩
      | cons r history =>
        have hne := History.cutAtLast?_eq_none hcut r List.mem_cons_self
        have hlater := (List.mem_cons.1 (hhistory r List.mem_cons_self)).resolve_left hne
        obtain ⟨-, required, hmem, hrequired⟩ := Phase.of_mem_tail hphases hlater
        have hcan := haccepts.1
        simp [canRun, hrequired, hnone required hmem] at hcan
    | some cut =>
      obtain ⟨r, later⟩ := cut
      obtain ⟨rfl, hlater, before, rfl⟩ := History.cutAtLast?_eq_some hcut
      obtain ⟨-, hcan, hrest⟩ := accepts_append.1 haccepts
      have hbefore (earlier : Run) (h : earlier ∈ before) : r.phase.rank ≤ earlier.phase.rank :=
        hrank earlier (List.mem_append_left _ h)
      rw [canRun_attemptAll hbefore] at hcan
      rw [attempt_attemptAll hbefore hcan] at hrest
      have hlaterPhases (x : Run) (hx : x ∈ later) : x.phase ∈ phases :=
        (List.mem_cons.1 (hhistory x (by simp [hx]))).resolve_left (hlater x hx)
      have hskipped (next : Phase) (hnext : next ∈ phases) :
          ((a.attempt r).outcome next).isPass = false := by
        have hpart := part_attempt_of_lt_rank hcan (Phase.of_mem_tail hphases hnext).1
        rw [← outcome_part, hpart, outcome_part]
        cases next <;> rfl
      obtain ⟨hessence, heq⟩ := ih htail hrest hlaterPhases hskipped
      refine ⟨⟨hcan, hessence⟩, heq.trans ?_⟩
      rw [attemptAll_append, attemptAll_cons, attempt_attemptAll hbefore hcan]

/-- A history leads to what its last lexical run leads to, with the last syntax run accepted after
it and the last semantic run accepted after that; and none of these is refused on the way. -/
theorem attemptAll_fresh_eq_essence (history : List Run) :
    fresh.attemptAll history =
        fresh.attemptAll (History.essence Phase.all (fresh.accepted history)) ∧
      fresh.Accepts (History.essence Phase.all (fresh.accepted history)) := by
  have hphases (phase : Phase) : phase ∈ Phase.all := by cases phase <;> decide
  have hnone (phase : Phase) : (fresh.outcome phase).isPass = false := by cases phase <;> rfl
  obtain ⟨haccepts, heq⟩ := attemptAll_essence (List.suffix_refl Phase.all)
    (accepts_accepted fresh history) (fun r _ => hphases r.phase) (fun phase _ => hnone phase)
  exact ⟨(heq.trans (attemptAll_accepted fresh history)).symm, haccepts⟩

end Analysis

end DeclLang
