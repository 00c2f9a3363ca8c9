import DeclLang.Analysis.Journal
import DeclLang.Fixture.Report

/-!
# Journals of fixture runs

A fixture notes what its analysis notes, and a warning when its report does not pass. A directory
notes what its fixtures note up to the first that cannot be loaded.
-/

namespace DeclLang.Journal

/-- The notes of running a fixture. -/
def runningFixture (f : Fixture) : List Note :=
  analyzing f.source ++
    if f.run.passed then []
    else [⟨.warn, "fixture " ++ String.ofList f.name ++ " did not match its header"⟩]

/-- The notes of running the fixture in the file at a path. -/
def runningFile (disk : Disk) (path : Text) : List Note :=
  match Fixture.load disk path with
  | .error _ => []
  | .ok f => runningFixture f

/-- The notes of running the fixtures in the files at paths up to the first that cannot be
loaded. -/
def runningFiles (disk : Disk) : List Text → List Note
  | [] => []
  | path :: rest =>
    match Fixture.load disk path with
    | .error _ => []
    | .ok f => runningFixture f ++ runningFiles disk rest

/-- The notes of running the fixtures in a directory. -/
def runningDirectory (disk : Disk) (directory : Text) : List Note :=
  match disk.list directory with
  | .error _ => []
  | .ok names => runningFiles disk ((Fixture.namesAmong names).map (Path.join directory))

end DeclLang.Journal
