import DeclLang.Analysis.Basic
import DeclLang.Files.Disk
import DeclLang.Fixture.Header

/-!
# Fixtures and their reports

A fixture is a source text with a header, which is part of the text that is analysed. Its report
sets the outcome of every phase beside the expected one, and passes when none differs. The fixtures
of a directory are its entries with the extension `decl`; they run in the order of their names, and
the first that cannot be loaded ends the run without any report.
-/

namespace DeclLang

/-- A source text with the outcomes that its header expects. -/
structure Fixture where
  path : Text
  source : Text
  expected : PerPhase Expectation
deriving DecidableEq, Repr

/-- Why a fixture or a directory of fixtures cannot be loaded. -/
inductive FixtureError where
  | unreadable (path : Text) (error : ReadError)
  | badHeader (path : Text) (error : HeaderError)
deriving DecidableEq, Repr

/-- The wording of an error. -/
def FixtureError.message : FixtureError → String
  | .unreadable path error => "cannot read " ++ String.ofList path ++ ": " ++ error.message
  | .badHeader path error =>
    "bad fixture header in " ++ String.ofList path ++ ": " ++ error.message

/-- The outcomes of a fixture beside the expected ones. -/
structure Report where
  name : Text
  expected : PerPhase Expectation
  actual : PerPhase Outcome
deriving DecidableEq, Repr

namespace Report

/-- The phases that did not end as expected. -/
def mismatches (r : Report) : List Phase :=
  Phase.all.filter fun phase => !(r.expected.get phase).accepts (r.actual.get phase)

/-- Whether every phase ended as expected. -/
def passed (r : Report) : Bool := r.mismatches.isEmpty

/-- The line about a phase that did not end as expected. -/
def describeMismatch (r : Report) (phase : Phase) : String :=
  "\n     " ++ phase.name ++ " expected " ++ (r.expected.get phase).label ++ ", got "
    ++ (r.actual.get phase).describe

/-- A report as text, with a line for every phase that did not end as expected. -/
def describe (r : Report) : String :=
  if r.passed then "ok   " ++ String.ofList r.name
  else
    "FAIL " ++ String.ofList r.name ++ String.join (r.mismatches.map r.describeMismatch)

end Report

namespace Fixture

/-- The extension of the files that hold fixtures. -/
def extension : String := "decl"

/-- The fixture of a source text at a path. -/
def ofSource (path source : Text) : Except FixtureError Fixture :=
  match Header.parse source with
  | .error e => .error (.badHeader path e)
  | .ok expected => .ok ⟨path, source, expected⟩

/-- The fixture in the file at a path. -/
def load (disk : Disk) (path : Text) : Except FixtureError Fixture :=
  match disk.read path with
  | .error e => .error (.unreadable path e)
  | .ok source => ofSource path source

/-- The name of a fixture: the stem of its file name, or the whole path if there is no file name. -/
def name (f : Fixture) : Text := (Path.stem? f.path).getD f.path

/-- The report of a fixture. -/
def run (f : Fixture) : Report := ⟨f.name, f.expected, (analyze f.source).outcomes⟩

/-- The report of the fixture in the file at a path. -/
def runFile (disk : Disk) (path : Text) : Except FixtureError Report :=
  (load disk path).map run

/-- The names of fixtures among the names in a directory, in ascending order. -/
def namesAmong (names : List Text) : List Text :=
  (names.filter (Path.extension? · == some extension.toList)).mergeSort Text.le

/-- The reports of the fixtures in a directory, in the order of their names. -/
def runDirectory (disk : Disk) (directory : Text) : Except FixtureError (List Report) :=
  match disk.list directory with
  | .error e => .error (.unreadable directory e)
  | .ok names => ((namesAmong names).map (Path.join directory)).mapM (runFile disk)

end Fixture

end DeclLang
