import DeclLang.CommandLine.Response
import DeclLang.Proofs.FirstFailure
import DeclLang.Proofs.Span

/-!
# Runs of a directory

Sorting leaves nothing of the order in which a directory is listed: the fixtures run by ascending
path, each once. Whether a fixture can be loaded depends on its own file, so either all of them are
reported, or the run ends with the error of the smallest path that cannot be loaded. The command
line prints what such a run comes to, and prints no report of a run that fails.
-/

namespace DeclLang

namespace Text

/-- A text comes no later than another just when the other is not before it in the lexicographic
order of characters. -/
theorem le_iff {a b : Text} : le a b = true ↔ ¬ b < a := by
  induction a generalizing b with
  | nil => simp [le]
  | cons c a ih =>
    cases b with
    | nil => simp [le]
    | cons d b =>
      have hlt : d < c ↔ d.toNat < c.toNat := UInt32.lt_iff_toNat_lt
      rw [le, List.cons_lt_cons_iff, hlt, Bool.or_eq_true, decide_eq_true_eq, Bool.and_eq_true,
        beq_iff_eq, ih]
      by_cases hcd : c = d
      · simp [hcd]
      · have hne : c.toNat ≠ d.toNat := mt Char.toNat_inj.1 hcd
        simp only [hcd, Ne.symm hcd, false_and, or_false]
        omega

/-- Of sorted texts none is before an earlier one. -/
theorem pairwise_mergeSort_le (texts : List Text) :
    (texts.mergeSort le).Pairwise fun a b => ¬ b < a := by
  refine (List.pairwise_mergeSort (fun a b c hab hbc => ?_) (fun a b => ?_) texts).imp le_iff.1
  · exact le_iff.2 (List.le_trans (le_iff.1 hab) (le_iff.1 hbc))
  · rw [Bool.or_eq_true, le_iff, le_iff]
    exact List.le_total a b

/-- Sorting forgets the order that texts came in. -/
theorem mergeSort_le_congr {texts others : List Text} (h : texts.Perm others) :
    texts.mergeSort le = others.mergeSort le :=
  (((List.mergeSort_perm texts le).trans h).trans
    (List.mergeSort_perm others le).symm).eq_of_pairwise (fun _ _ _ _ => List.le_antisymm)
      (pairwise_mergeSort_le texts) (pairwise_mergeSort_le others)

end Text

namespace Path

/-- What is behind the last dot of a name is what `splitExtension` takes for its extension. -/
theorem behind_last_dot (front : Text) {extension : Text} (h : '.' ∉ extension)
    (hfront : ∀ c ∈ front.getLast?, c = '.') :
    ((front ++ extension).reverse.takeWhile (· ≠ '.')).reverse = extension := by
  have hextension : ∀ c ∈ extension.reverse, decide (c ≠ '.') = true := by
    simp only [List.mem_reverse, decide_eq_true_eq]
    exact fun c hc heq => h (heq ▸ hc)
  have hstop : ∀ c ∈ front.reverse.head?, decide (c ≠ '.') = false := by
    simpa only [List.head?_reverse, decide_eq_false_iff_not, not_not] using hfront
  rw [List.reverse_append, Text.takeWhile_append_eq hextension hstop, List.reverse_reverse]

/-- The extension of a name is what is behind its last dot, if anything is before that dot. -/
theorem extension?_append {stem extension : Text} (h : '.' ∉ extension) :
    extension? (stem ++ '.' :: extension) = if stem = [] then none else some extension := by
  have hbehind := behind_last_dot (stem ++ ['.']) h (by simp)
  rw [← List.append_cons] at hbehind
  have hlength : (stem ++ '.' :: extension).length - extension.length - 1 = stem.length := by
    simp only [List.length_append, List.length_cons]
    omega
  have hlt : extension.length ≠ (stem ++ '.' :: extension).length := by
    simp only [List.length_append, List.length_cons]
    omega
  simp only [extension?, splitExtension, hbehind, hlength, List.take_left, hlt, false_or]
  by_cases hstem : stem = [] <;> simp [hstem]

/-- A name without a dot has no extension. -/
theorem extension?_eq_none {name : Text} (h : '.' ∉ name) : extension? name = none := by
  have hbehind := behind_last_dot [] h (by simp)
  simp only [extension?, splitExtension, List.nil_append] at hbehind ⊢
  rw [hbehind, if_pos (.inl rfl)]

/-- A name has an extension just when it ends in a dot and the extension, with something before the
dot and no dot in the extension. -/
theorem extension?_eq_some_iff {name extension : Text} :
    extension? name = some extension ↔
      '.' ∉ extension ∧ ∃ stem, stem ≠ [] ∧ name = stem ++ '.' :: extension := by
  constructor
  · intro h
    by_cases hdot : '.' ∈ name
    · obtain ⟨behind, before, hname, hbehind⟩ :=
        List.eq_append_cons_of_mem (List.mem_reverse.2 hdot)
      obtain rfl : name = before.reverse ++ '.' :: behind.reverse := by
        rw [← List.reverse_reverse name, hname]
        simp
      rw [extension?_append (List.mem_reverse.not.2 hbehind)] at h
      obtain ⟨hstem, rfl⟩ : before.reverse ≠ [] ∧ behind.reverse = extension := by simpa using h
      exact ⟨List.mem_reverse.not.2 hbehind, before.reverse, hstem, rfl⟩
    · simp [extension?_eq_none hdot] at h
  · rintro ⟨hdot, stem, hstem, rfl⟩
    rw [extension?_append hdot, if_neg hstem]

example : extension? ".decl".toList = none ∧ extension? "..decl".toList = some "decl".toList := by
  decide

/-- The paths of a directory all start alike. -/
theorem exists_join_eq (directory : Text) : ∃ top, ∀ name, join directory name = top ++ name := by
  by_cases h : directory = [] ∨ directory.getLast? = some '/'
  · exact ⟨directory, fun name => by rw [join, if_pos h]⟩
  · exact ⟨directory ++ ['/'], fun name => by rw [join, if_neg h, List.append_cons]⟩

/-- Paths in a directory are in the order of their names. -/
theorem join_lt_join {a b : Text} (h : a < b) (directory : Text) :
    join directory a < join directory b := by
  obtain ⟨top, htop⟩ := exists_join_eq directory
  rw [htop, htop]
  exact List.append_left_lt h

end Path

namespace Fixture

variable {disk : Disk} {directory : Text} {names : List Text}

/-- A name of a fixture ends in a dot and the extension of fixtures, with something before the
dot. -/
def IsName (name : Text) : Prop := ∃ stem, stem ≠ [] ∧ name = stem ++ '.' :: extension.toList

/-- The names in a directory that are those of fixtures, each once and by ascending path. -/
structure IsListing (directory : Text) (names chosen : List Text) : Prop where
  mem_iff : ∀ name, name ∈ chosen ↔ name ∈ names ∧ IsName name
  ascending : chosen.Pairwise fun a b => Path.join directory a < Path.join directory b

/-- The names with the extension of fixtures, by ascending path, are a listing. -/
theorem isListing_of_perm {chosen : List Text}
    (hperm : chosen.Perm (names.filter (Path.extension? · == some extension.toList)))
    (hascending : chosen.Pairwise fun a b => Path.join directory a < Path.join directory b) :
    IsListing directory names chosen where
  mem_iff name := by
    rw [hperm.mem_iff, List.mem_filter, beq_iff_eq, Path.extension?_eq_some_iff]
    exact and_congr_right fun _ => and_iff_right (by decide)
  ascending := hascending

/-- Names that differ run in a strictly ascending order. -/
theorem pairwise_namesAmong (hnodup : names.Nodup) : (namesAmong names).Pairwise (· < ·) := by
  have hne : (namesAmong names).Pairwise (· ≠ ·) :=
    (List.mergeSort_perm _ _).nodup_iff.2 (hnodup.filter _)
  exact ((Text.pairwise_mergeSort_le _).and hne).imp fun h =>
    not_not.1 fun hlt => h.2 (List.le_antisymm h.1 hlt)

/-- The fixtures that run do not depend on the order of the names. -/
theorem namesAmong_congr {others : List Text} (h : names.Perm others) :
    namesAmong names = namesAmong others :=
  Text.mergeSort_le_congr (h.filter _)

/-- The names that run are a listing of the fixtures. -/
theorem isListing_namesAmong (hnodup : names.Nodup) :
    IsListing directory names (namesAmong names) :=
  isListing_of_perm (List.mergeSort_perm _ _)
    ((pairwise_namesAmong hnodup).imp (Path.join_lt_join · directory))

/-- Names have one listing of the fixtures among them. -/
theorem IsListing.unique {chosen others : List Text} (h : IsListing directory names chosen)
    (hothers : IsListing directory names others) : chosen = others := by
  have hnodup {chosen : List Text} (h : IsListing directory names chosen) : chosen.Nodup := by
    refine h.ascending.imp fun hlt => ?_
    rintro rfl
    exact List.lt_irrefl _ hlt
  have hperm : chosen.Perm others := (List.perm_ext_iff_of_nodup (hnodup h) (hnodup hothers)).2
    fun name => (h.mem_iff name).trans (hothers.mem_iff name).symm
  exact hperm.eq_of_pairwise (fun _ _ _ _ hlt hgt => absurd hgt (List.lt_asymm hlt)) h.ascending
    hothers.ascending

/-- A fixture cannot be loaded when its file cannot be read, or when its first line is no header. -/
theorem load_eq_error_iff {path : Text} {e : FixtureError} :
    load disk path = .error e ↔
      (∃ error, disk.read path = .error error ∧ e = .unreadable path error) ∨
        ∃ source error, disk.read path = .ok source ∧ Header.parse source = .error error ∧
          e = .badHeader path error := by
  unfold load
  cases hread : disk.read path with
  | error error => simp [eq_comm]
  | ok source => cases hparse : Header.parse source <;> simp [ofSource, hparse, eq_comm]

/-- The file at a path gives the report of the fixture in it. -/
theorem runFile_eq_ok_iff {path : Text} {report : Report} :
    runFile disk path = .ok report ↔ ∃ f, load disk path = .ok f ∧ report = f.run := by
  cases h : load disk path <;> simp [runFile, h, Except.map, eq_comm]

/-- Running a file fails just when its fixture cannot be loaded. -/
theorem runFile_eq_error_iff {path : Text} {e : FixtureError} :
    runFile disk path = .error e ↔ load disk path = .error e := by
  cases h : load disk path <;> simp [runFile, h, Except.map]

/-- A directory that can be listed runs by the names of its fixtures. -/
theorem runDirectory_of_list (hlist : disk.list directory = .ok names) :
    runDirectory disk directory =
      (namesAmong names).mapM fun name => runFile disk (Path.join directory name) := by
  rw [runDirectory, hlist]
  exact List.mapM_map

/-- The run of a directory depends on its files and its names, not on the order they are listed
in. -/
theorem runDirectory_congr {again : Disk} {relisted : List Text}
    (hlist : disk.list directory = .ok names) (hread : again.read = disk.read)
    (hrelist : again.list directory = .ok relisted) (hperm : relisted.Perm names) :
    runDirectory again directory = runDirectory disk directory := by
  have hrunFile : runFile again = runFile disk := by
    funext path
    rw [runFile, runFile, load, load, hread]
  rw [runDirectory_of_list hlist, runDirectory_of_list hrelist, namesAmong_congr hperm, hrunFile]

/-- The error that ends a run over ascending paths is that of the smallest path that cannot be
loaded. -/
theorem IsListing.exists_smallest {chosen : List Text} {e : FixtureError}
    (hlisting : IsListing directory names chosen)
    (h : (chosen.mapM fun name => runFile disk (Path.join directory name)) = .error e) :
    ∃ name ∈ chosen, load disk (Path.join directory name) = .error e ∧
      ∀ other ∈ chosen, Path.join directory other < Path.join directory name →
        ∃ f, load disk (Path.join directory other) = .ok f := by
  obtain ⟨before, name, later, rfl, hbefore, hname⟩ := mapM_eq_error_iff.1 h
  refine ⟨name, by simp, runFile_eq_error_iff.1 hname, fun other hother hlt => ?_⟩
  obtain ⟨-, hlater, -⟩ := List.pairwise_append.1 hlisting.ascending
  -- A smaller path cannot come later, as the paths ascend, so it is among those that loaded.
  have hmem : other ∈ before := by
    rcases List.mem_append.1 hother with hmem | hmem
    · exact hmem
    · rcases List.mem_cons.1 hmem with rfl | hmem
      · exact absurd hlt (List.lt_irrefl _)
      · exact absurd hlt (List.lt_asymm ((List.pairwise_cons.1 hlater).1 other hmem))
  obtain ⟨report, hreport⟩ := hbefore other hmem
  obtain ⟨f, hload, -⟩ := runFile_eq_ok_iff.1 hreport
  exact ⟨f, hload⟩

end Fixture

namespace CommandLine

/-- A response that prints every report in turn and then how many passed and failed, and that ends
with exit code 0 just when all passed. -/
structure Response.Summarises (response : Response) (reports : List Report) : Prop where
  counts_add : reports.countP (·.passed) + reports.countP (!·.passed) = reports.length
  output : response.output =
    String.join (reports.map (·.describe ++ "\n")) ++
      ("\n" ++ toString reports.length ++ " fixture(s), "
        ++ toString (reports.countP (·.passed)) ++ " passed, "
        ++ toString (reports.countP (!·.passed)) ++ " failed" ++ "\n")
  /-- The command ends with no error; what it warns of while it works is in its journal. -/
  errors : response.errors = ""
  code : response.code = if ∀ report ∈ reports, report.passed then 0 else 1

/-- The response to reports summarises them. -/
theorem summarises_reportAll (reports : List Report) : (reportAll reports).Summarises reports := by
  have hadd : reports.countP (·.passed) + reports.countP (!·.passed) = reports.length := by
    simpa using (List.length_eq_countP_add_countP Report.passed (l := reports)).symm
  have hfailed : (reports.filter (!·.passed)).length = reports.countP (!·.passed) :=
    List.countP_eq_length_filter.symm
  refine ⟨hadd, ?_, rfl, ?_⟩
  · have hpassed : reports.length - reports.countP (!·.passed) = reports.countP (·.passed) := by
      omega
    simp [reportAll, Response.ofLines, hfailed, hpassed, String.join_append, Function.comp_def]
  · simp [reportAll, Response.ofLines]

variable {disk : Disk} {directory : Text} {arguments : List Text}

/-- A command line that asks for the fixtures of a directory tells what their run came to. -/
theorem answer_of_fixtures
    (h : Request.ofArguments? arguments = some (.run (.fixtures directory))) :
    answer disk arguments =
      match Fixture.runDirectory disk directory with
      | .error e => .finished (.ofError (fixtureErrorForm e))
      | .ok reports => .finished (reportAll reports) := by
  rw [answer, h]
  rfl

end CommandLine

namespace Fixture

variable {disk : Disk} {directory : Text} {names : List Text}

/-- The run of a directory completes: every chosen fixture can be loaded, there is one report for
each, that of its file alone, and the command line summarises the reports. -/
structure Completes (disk : Disk) (directory : Text) (chosen : List Text)
    (reports : List Report) : Prop where
  reports_each : List.Forall₂
    (fun name report => ∃ f, load disk (Path.join directory name) = .ok f ∧ report = f.run)
    chosen reports
  run : runDirectory disk directory = .ok reports
  answer : ∀ arguments,
    CommandLine.Request.ofArguments? arguments = some (.run (.fixtures directory)) →
      ∃ response, CommandLine.answer disk arguments = .finished response ∧
        response.Summarises reports

/-- The run of a directory fails at a name: its file cannot be read or has a bad header, every
fixture at a smaller path can be loaded, and the command line prints no report. -/
structure FailsAt (disk : Disk) (directory : Text) (chosen : List Text) (name : Text)
    (e : FixtureError) : Prop where
  mem : name ∈ chosen
  load : load disk (Path.join directory name) = .error e
  cause : (∃ error, disk.read (Path.join directory name) = .error error ∧
      e = .unreadable (Path.join directory name) error) ∨
    ∃ source error, disk.read (Path.join directory name) = .ok source ∧
      Header.parse source = .error error ∧ e = .badHeader (Path.join directory name) error
  smallest : ∀ other ∈ chosen, Path.join directory other < Path.join directory name →
    ∃ f, Fixture.load disk (Path.join directory other) = .ok f
  run : runDirectory disk directory = .error e
  answer : ∀ arguments,
    CommandLine.Request.ofArguments? arguments = some (.run (.fixtures directory)) →
      ∃ response, CommandLine.answer disk arguments = .finished response ∧
        response.output = "" ∧ response.code = 1

/-- A run that leads to reports completes with them. -/
theorem completes_of_runDirectory {reports : List Report}
    (hlist : disk.list directory = .ok names)
    (hrun : runDirectory disk directory = .ok reports) :
    Completes disk directory (namesAmong names) reports where
  reports_each := by
    rw [runDirectory_of_list hlist] at hrun
    exact (mapM_eq_ok_iff.1 hrun).imp fun _ _ => runFile_eq_ok_iff.1
  run := hrun
  answer arguments hrequest := by
    rw [CommandLine.answer_of_fixtures hrequest, hrun]
    exact ⟨_, rfl, CommandLine.summarises_reportAll reports⟩

/-- A run that leads to an error fails at the smallest path that cannot be loaded. -/
theorem exists_failsAt_of_runDirectory {e : FixtureError} (hnodup : names.Nodup)
    (hlist : disk.list directory = .ok names)
    (hrun : runDirectory disk directory = .error e) :
    ∃ name, FailsAt disk directory (namesAmong names) name e := by
  have hmapM := hrun
  rw [runDirectory_of_list hlist] at hmapM
  obtain ⟨name, hmem, hload, hsmallest⟩ := (isListing_namesAmong hnodup).exists_smallest hmapM
  refine ⟨name, hmem, hload, load_eq_error_iff.1 hload, hsmallest, hrun, ?_⟩
  intro arguments hrequest
  rw [CommandLine.answer_of_fixtures hrequest, hrun]
  exact ⟨_, rfl, rfl, rfl⟩

/-- A directory is run completely, in order, and whole or not at all. The names that run are those
that end in a dot and the extension of fixtures, in strictly ascending order of their paths. Either
all of them can be loaded, and the run completes with a report for each, or it fails with the error
of the smallest path that cannot be loaded, without any report. The order in which the names are
listed makes no difference. -/
theorem runDirectory_complete_in_order (hlist : disk.list directory = .ok names)
    (hnodup : names.Nodup) :
    ∃ chosen, IsListing directory names chosen ∧
      ((∃ reports, Completes disk directory chosen reports) ∨
        ∃ name e, FailsAt disk directory chosen name e) ∧
      ∀ again : Disk, again.read = disk.read → ∀ relisted, again.list directory = .ok relisted →
        relisted.Perm names → runDirectory again directory = runDirectory disk directory := by
  refine ⟨_, isListing_namesAmong hnodup, ?_, fun again hread relisted hrelist hperm =>
    runDirectory_congr hlist hread hrelist hperm⟩
  cases hrun : runDirectory disk directory with
  | ok reports => exact .inl ⟨reports, completes_of_runDirectory hlist hrun⟩
  | error e =>
    obtain ⟨name, hfails⟩ := exists_failsAt_of_runDirectory hnodup hlist hrun
    exact .inr ⟨name, e, hfails⟩

/-- Two directories, listed in no order. In `d` there is a directory `b.decl`, and `c.decl` has no
header. In `e` every fixture can be loaded. -/
def mixedDisk : Disk where
  read path :=
    if path = "d/a.decl".toList then .ok "// expect: lexical=PASS".toList
    else if path = "d/c.decl".toList then .ok "int x = 1;".toList
    else if path = "e/a.decl".toList then
      .ok "// expect: lexical=PASS syntax=PASS semantic=PASS".toList
    else if path = "e/b.decl".toList then .ok "// expect: lexical=PASS".toList
    else .error .isDirectory
  list directory :=
    if directory = "e".toList then .ok ["b.decl".toList, "c".toList, "a.decl".toList]
    else .ok ["c.decl".toList, ".decl".toList, "b.decl".toList, "a.decl".toList]

/-- The run of the first directory ends at the entry that is no file: the fixture before it can be
loaded, the bad header comes after it, and `.decl` is no fixture. The run of the second completes,
and one of its two fixtures does not end as expected. -/
theorem runDirectory_mixedDisk :
    (runDirectory mixedDisk "d".toList =
        .error (.unreadable "d/b.decl".toList .isDirectory) ∧
      ∃ response,
        CommandLine.answer mixedDisk ["fixtures".toList, "d".toList] = .finished response ∧
          response.output = "" ∧ response.code = 1) ∧
    ∃ first second response,
      load mixedDisk "e/a.decl".toList = .ok first ∧
      load mixedDisk "e/b.decl".toList = .ok second ∧
      runDirectory mixedDisk "e".toList = .ok [first.run, second.run] ∧
      CommandLine.answer mixedDisk ["fixtures".toList, "e".toList] = .finished response ∧
        response.output = "ok   a\nFAIL b\n     syntax expected SKIP, got PASS\n" ++
          "     semantic expected SKIP, got PASS\n\n2 fixture(s), 1 passed, 1 failed\n" ∧
        response.code = 1 := by
  constructor
  · have hlist : mixedDisk.list "d".toList =
        .ok ["c.decl".toList, ".decl".toList, "b.decl".toList, "a.decl".toList] := rfl
    have hloadb : load mixedDisk (Path.join "d".toList "b.decl".toList) =
        .error (.unreadable "d/b.decl".toList .isDirectory) := rfl
    obtain ⟨chosen, hlisting, hrun, -⟩ := runDirectory_complete_in_order hlist (by decide)
    obtain rfl : chosen = ["a.decl".toList, "b.decl".toList, "c.decl".toList] :=
      hlisting.unique (isListing_of_perm (by decide) (by decide))
    rcases hrun with ⟨reports, hcompletes⟩ | ⟨name, e, hfails⟩
    · have heach := hcompletes.reports_each
      simp only [List.forall₂_cons_left_iff] at heach
      obtain ⟨_, _, -, ⟨_, _, ⟨f, hload, -⟩, -⟩, -⟩ := heach
      rw [hloadb] at hload
      cases hload
    · have hload := hfails.load
      have hmem := hfails.mem
      simp only [List.mem_cons, List.not_mem_nil, or_false] at hmem
      rcases hmem with rfl | rfl | rfl
      · cases hload
      · refine ⟨?_, hfails.answer _ (by decide)⟩
        rw [hfails.run, Except.error.inj (hload.symm.trans hloadb)]
      · obtain ⟨f, hloaded⟩ := hfails.smallest "b.decl".toList (by decide) (by decide)
        rw [hloadb] at hloaded
        cases hloaded
  · have hlist : mixedDisk.list "e".toList = .ok ["b.decl".toList, "c".toList, "a.decl".toList] :=
      rfl
    obtain ⟨chosen, hlisting, hrun, -⟩ := runDirectory_complete_in_order hlist (by decide)
    obtain rfl : chosen = ["a.decl".toList, "b.decl".toList] :=
      hlisting.unique (isListing_of_perm (by decide) (by decide))
    have hfirst : load mixedDisk "e/a.decl".toList = .ok ⟨"e/a.decl".toList,
        "// expect: lexical=PASS syntax=PASS semantic=PASS".toList, ⟨.pass, .pass, .pass⟩⟩ := by
      decide +kernel
    have hsecond : load mixedDisk "e/b.decl".toList = .ok ⟨"e/b.decl".toList,
        "// expect: lexical=PASS".toList, ⟨.pass, .skip, .skip⟩⟩ := by
      decide +kernel
    rcases hrun with ⟨reports, hcompletes⟩ | ⟨name, e, hfails⟩
    · obtain ⟨response, hanswer, hsummary⟩ :=
        hcompletes.answer ["fixtures".toList, "e".toList] (by decide)
      have heach := hcompletes.reports_each
      simp only [List.forall₂_cons_left_iff, List.forall₂_nil_left_iff] at heach
      obtain ⟨_, _, ⟨first, hf, rfl⟩, ⟨_, _, ⟨second, hg, rfl⟩, rfl, rfl⟩, rfl⟩ := heach
      obtain rfl := Except.ok.inj (hf.symm.trans hfirst)
      obtain rfl := Except.ok.inj (hg.symm.trans hsecond)
      refine ⟨_, _, response, hfirst, hsecond, hcompletes.run, hanswer, ?_, ?_⟩
      · rw [hsummary.output]
        decide +kernel
      · rw [hsummary.code, if_neg (by decide +kernel)]
    · have hload := hfails.load
      have hmem := hfails.mem
      simp only [List.mem_cons, List.not_mem_nil, or_false] at hmem
      rcases hmem with rfl | rfl <;> cases hload

end Fixture

end DeclLang
