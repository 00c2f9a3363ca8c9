import DeclLang.CommandLine.Response
import DeclLang.Viewer.Frame

/-!
# The program

Reading files and directories, printing, and the session of the viewer. What a command comes to is
decided by `CommandLine.answer` on a disk that holds what the command may ask for.
-/

namespace DeclLang.Program

/-- The reason why the operating system refused to read, if it is one of a path. -/
def readError? : IO.Error → Option ReadError
  | .noFileOrDirectory .. => some .notFound
  | .inappropriateType _ code _ => some (if code = 21 then .isDirectory else .notDirectory)
  | .permissionDenied .. => some .denied
  | _ => none

/-- The result of reading, with the errors of a path told apart from all others. -/
def settled {α : Type} (action : IO α) : IO (Except ReadError α) := do
  try
    return .ok (← action)
  catch e =>
    match readError? e with
    | some error => return .error error
    | none => throw e

/-- The text of the file at a path. -/
def readFile (path : Text) : IO (Except ReadError Text) := do
  match ← settled (IO.FS.readBinFile (String.ofList path)) with
  | .error e => return .error e
  | .ok bytes =>
    match String.fromUTF8? bytes with
    | none => return .error .invalidText
    | some text => return .ok text.toList

/-- The names in the directory at a path. -/
def listDirectory (path : Text) : IO (Except ReadError (List Text)) := do
  if path = [] then return .error .notFound
  let entries ← settled do ((← IO.currentDir) / String.ofList path).readDir
  return entries.map fun entries => entries.toList.map (·.fileName.toList)

/-- A disk with the files at the given paths and the names in one directory. -/
def diskOf (paths : List Text) (names : Except ReadError (List Text)) : IO Disk := do
  let files ← paths.mapM fun path => do return (path, ← readFile path)
  return ⟨fun path => (files.lookup path).getD (.error .notFound), fun _ => names⟩

/-- A disk with all that a command may ask for. -/
def diskFor : CommandLine.Command → IO Disk
  | .view file | .check file => diskOf [file] (.error .notFound)
  | .fixtures directory => do
    let names ← listDirectory directory
    let paths := match names with
      | .error _ => []
      | .ok names => (Fixture.namesAmong names).map (Path.join directory)
    diskOf paths names

/-- Press keys in turn until one of them ends the session. -/
def pressAll (v : Viewer) : List Char → IO Viewer
  | [] => return v
  | c :: rest => do
    if v.quitting then return v
    let key := if c = '\t' then Key.tab else .char c
    pressAll (v.press (← readFile v.path) key) rest

/-- The session of a viewer: draw a frame, then press the keys of a line of input. -/
partial def session (v : Viewer) : IO Unit := do
  match v.frame? 100 30 with
  | none => return
  | some frame =>
    for row in frame.screen do
      IO.println (String.ofList (Grid.rowText row))
    let line ← (← IO.getStdin).getLine
    let w ← pressAll (v.settle 100 30) (line.toList.filter (· ≠ '\n'))
    unless line.isEmpty || w.quitting do session w

end DeclLang.Program

/-- Do what the command line asks for and end with its exit code. -/
def main (arguments : List String) : IO UInt32 := do
  let arguments := arguments.map (·.toList)
  let disk ← match DeclLang.CommandLine.Request.ofArguments? arguments with
    | some (.run command) => DeclLang.Program.diskFor command
    | _ => pure ⟨fun _ => .error .notFound, fun _ => .error .notFound⟩
  match DeclLang.CommandLine.answer disk arguments with
  | .opened viewer =>
    DeclLang.Program.session viewer
    return 0
  | .finished response =>
    IO.print response.output
    IO.eprint response.errors
    return response.code.toUInt32
