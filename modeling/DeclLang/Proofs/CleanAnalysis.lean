import DeclLang.CommandLine.Response
import DeclLang.Proofs.Consistency
import DeclLang.Proofs.StatementGrammar

/-!
# Clean analyses

An analysis is clean just when the source obeys the language: it can be cut into tokens, every
statement makes a declaration, no name is declared twice, and every literal fits the type of its
variable. The program ends with exit code 0 just then. Where only one of the last two conditions
fails, the semantic phase ends with the message about the first declaration where it does.
-/

namespace DeclLang

/-- Declarations obey the language when no name is declared twice and every literal fits. -/
def Declaration.AllObey (ds : List Declaration) : Prop :=
  (ds.map (·.identifier)).Nodup ∧ ∀ d ∈ ds, d.Fits

/-- A source text obeys the language when it has tokens and declarations that obey it. -/
def Obeys (source : Text) : Prop :=
  (∃ tokens, lex source = .ok tokens) ∧
    ∃ tree, parse source = .ok tree ∧ Declaration.AllObey tree.declarations

/-- The syntax phase knows the same types as the semantic phase. -/
theorem exists_type_of_parse {source : Text} {tree : Tree} (h : parse source = .ok tree) :
    ∀ d ∈ tree.declarations, ∃ type, PrimitiveType.ofName? d.typeName = some type := by
  intro d hd
  obtain ⟨statement, -, hread⟩ := exists_read_of_mem_declarations h hd
  obtain ⟨shape, ⟨-, hshape⟩, rfl⟩ := Statement.read_eq_ok_iff.1 hread
  obtain ⟨type, htype⟩ := hshape.typeName
  exact ⟨type, PrimitiveType.ofName?_eq_some.2 htype⟩

/-- Nothing is said of an unknown type when all types are known. -/
theorem ne_unknownType_of_mem_checkFrom {taken : List Text} {ds : List Declaration}
    (hknown : ∀ d ∈ ds, ∃ type, PrimitiveType.ofName? d.typeName = some type) {finding : Finding}
    (h : finding ∈ checkFrom taken ds) (typeName identifier : Text) :
    finding ≠ .unknownType typeName identifier := by
  induction ds generalizing taken with
  | nil => contradiction
  | cons d ds ih =>
    obtain ⟨⟨type, htype⟩, hrest⟩ := List.forall_mem_cons.1 hknown
    rcases List.mem_append.1 h with hfirst | hlater
    · simp only [Declaration.findings, htype] at hfirst
      split at hfirst
      · rw [List.mem_singleton.1 hfirst]
        simp
      · rcases List.mem_cons.1 hfirst with rfl | hmismatch
        · simp
        · obtain ⟨value, -, -, rfl⟩ :=
            Declaration.mismatch?_eq_some_iff.1 (Option.mem_toList.1 hmismatch)
          simp
    · exact ih hrest hlater

/-- The outcomes of a source text: the first phase that fails skips those behind it. -/
theorem outcomes_analyze (source : Text) :
    (analyze source).outcomes =
      match lex source, parse source with
      | .error e, _ => ⟨.error e.describe, .skipped, .skipped⟩
      | .ok _, .error e => ⟨.pass, .error e.describe, .skipped⟩
      | .ok _, .ok tree => ⟨.pass, .pass, Analysis.verdict (check tree)⟩ := by
  cases hlex : lex source <;> cases hparse : parse source <;>
    simp [analyze, Phase.all, Analysis.runEach, Analysis.run, Phase.required?, Analysis.record,
      Analysis.resetFrom, hlex, hparse, Analysis.outcome, Analysis.fresh, PerPhase.get,
      PerPhase.set, PerPhase.replicate, Outcome.isPass]

/-- The findings on a tree hold no error just when its declarations obey the language. -/
theorem verdict_check_eq_pass_iff {tree : Tree} :
    Analysis.verdict (check tree) = .pass ↔ Declaration.AllObey tree.declarations := by
  rw [Analysis.verdict_eq_pass_iff, firstError?_check, firstError?_checkFrom_eq_none_iff]
  simp [Declaration.AllObey]

/-- An analysis is clean just when its source obeys the language. -/
theorem isClean_analyze_iff {source : Text} : (analyze source).isClean ↔ Obeys source := by
  have hclean (a : Analysis) : a.isClean ↔ a.outcomes = ⟨.pass, .pass, .pass⟩ := by
    obtain ⟨_, _, _, _, _, _, _⟩ := a
    simp [Analysis.isClean, Phase.all, Analysis.outcome, PerPhase.get, Outcome.isPass_iff]
  rw [hclean, outcomes_analyze, Obeys]
  cases lex source with
  | error e => simp
  | ok tokens =>
    cases parse source with
    | error e => simp
    | ok tree => simp [verdict_check_eq_pass_iff]

/-- Checking a readable file ends with exit code 0 just when its text obeys the language. -/
theorem answer_check_iff {disk : Disk} {arguments : List Text} {file source : Text}
    (harguments : CommandLine.Request.ofArguments? arguments = some (.run (.check file)))
    (hread : disk.read file = .ok source) :
    ∃ response, CommandLine.answer disk arguments = .finished response ∧
      (response.code = 0 ↔ Obeys source) := by
  refine ⟨CommandLine.checkSource source, ?_, ?_⟩
  · simp [CommandLine.answer, harguments, CommandLine.Command.answer, hread]
  · rw [← isClean_analyze_iff]
    simp [CommandLine.checkSource, CommandLine.Response.ofLines]

/-- Where declarations do not obey the language the verdict is about the first that does not. -/
theorem exists_fault_of_parse {source : Text} {tree : Tree} (hparse : parse source = .ok tree)
    (hdisobey : ¬ Declaration.AllObey tree.declarations) :
    ∃ before d later finding, tree.declarations = before ++ d :: later ∧
      Declaration.AllObey before ∧ d.Fault (before.map (·.identifier)) finding ∧
        Analysis.verdict (check tree) = .error finding.message := by
  cases herror : Finding.firstError? (check tree) with
  | none =>
    exact absurd (verdict_check_eq_pass_iff.1 (Analysis.verdict_eq_pass_iff.2 herror)) hdisobey
  | some finding =>
    have hchecked := herror
    rw [firstError?_check] at hchecked
    obtain ⟨before, d, later, heq, hbefore, hfault⟩ :=
      exists_fault_of_checkFrom (exists_type_of_parse hparse) hchecked
    refine ⟨before, d, later, finding, heq, ?_, by simpa using hfault, ?_⟩
    · exact (firstError?_checkFrom_eq_none_iff.1 hbefore).2
    · rw [Analysis.verdict, herror]

/-- The verdict on a source text is that of the language definition. It is clean, and checking a
file with that text ends with exit code 0, just when the text obeys the language. On the tree of a
source no type is unknown, and if the source has tokens while its declarations do not obey the
language, then the semantic phase ends with what is wrong with the first that does not. -/
theorem analyze_judges_language (source : Text) :
    ((analyze source).isClean ↔ Obeys source) ∧
    (∀ (disk : Disk) (arguments : List Text) (file : Text),
      CommandLine.Request.ofArguments? arguments = some (.run (.check file)) →
      disk.read file = .ok source →
        ∃ response, CommandLine.answer disk arguments = .finished response ∧
          (response.code = 0 ↔ Obeys source)) ∧
    ∀ tree, parse source = .ok tree →
      (∀ finding ∈ check tree, ∀ typeName identifier,
        finding ≠ .unknownType typeName identifier) ∧
      ∀ tokens, lex source = .ok tokens → ¬ Declaration.AllObey tree.declarations →
        ∃ before d later finding, tree.declarations = before ++ d :: later ∧
          Declaration.AllObey before ∧ d.Fault (before.map (·.identifier)) finding ∧
            (analyze source).outcome .semantic = .error finding.message := by
  refine ⟨isClean_analyze_iff, fun _ _ _ => answer_check_iff, fun tree hparse => ⟨?_, ?_⟩⟩
  · intro finding hfinding typeName identifier
    unfold check at hfinding
    split at hfinding
    · rw [List.mem_singleton.1 hfinding]
      simp
    · exact ne_unknownType_of_mem_checkFrom (exists_type_of_parse hparse) hfinding _ _
  · intro tokens hlex hdisobey
    have houtcome : (analyze source).outcome .semantic = Analysis.verdict (check tree) := by
      rw [Analysis.outcome, outcomes_analyze, hlex, hparse]
      rfl
    rw [houtcome]
    exact exists_fault_of_parse hparse hdisobey

/-- A name that is declared twice is an error for the program too. -/
theorem check_name_declared_twice :
    (∃ response, CommandLine.answer ⟨fun _ => .ok "byte b=1;byte b=2".toList, fun _ => .ok []⟩
        ["check".toList, ['f']] = .finished response ∧
          (response.code = 0 ↔ Obeys "byte b=1;byte b=2".toList)) ∧
      ∃ before d later finding,
        [⟨"byte".toList, ['b'], ['1']⟩, ⟨"byte".toList, ['b'], ['2']⟩] = before ++ d :: later ∧
          Declaration.AllObey before ∧ d.Fault (before.map (·.identifier)) finding ∧
            (analyze "byte b=1;byte b=2".toList).outcome .semantic = .error finding.message := by
  have hlex : lex "byte b=1;byte b=2".toList = .ok [⟨.keyword, "byte".toList, 0, 4⟩,
      ⟨.identifier, ['b'], 5, 6⟩, ⟨.operator, ['='], 6, 7⟩, ⟨.number, ['1'], 7, 8⟩,
      ⟨.punctuation, [';'], 8, 9⟩, ⟨.keyword, "byte".toList, 9, 13⟩, ⟨.identifier, ['b'], 14, 15⟩,
      ⟨.operator, ['='], 15, 16⟩, ⟨.number, ['2'], 16, 17⟩] := by
    decide +kernel
  have hds : parseDeclarations "byte b=1;byte b=2".toList =
      .ok [⟨"byte".toList, ['b'], ['1']⟩, ⟨"byte".toList, ['b'], ['2']⟩] := by
    decide +kernel
  have hparse : parse "byte b=1;byte b=2".toList = .ok (Tree.ofDeclarations
      [⟨"byte".toList, ['b'], ['1']⟩, ⟨"byte".toList, ['b'], ['2']⟩]) := by
    rw [parse, hds]
    rfl
  obtain ⟨-, hcommand, htree⟩ := analyze_judges_language "byte b=1;byte b=2".toList
  refine ⟨hcommand _ _ ['f'] (by decide +kernel) rfl, ?_⟩
  exact (htree _ hparse).2 _ hlex fun h => absurd h.1 (by decide)

end DeclLang
