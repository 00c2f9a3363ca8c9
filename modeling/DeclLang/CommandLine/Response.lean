import DeclLang.CommandLine.Arguments
import DeclLang.Fixture.Report
import DeclLang.Text.Quotation
import DeclLang.Tree.Outline
import DeclLang.Viewer.Basic

/-!
# Responses of the command line

A command ends with an exit code and what it prints: 0 when all passed, 1 when a phase or a fixture
did not or something could not be read, and 2 when the arguments are no command line. Only viewing
a file that can be read does not end here: it opens the viewer. What a command notes while it works
is in its journal and is no part of the response, wherever a log may show it.
-/

namespace DeclLang.CommandLine

/-- How a command ends. A log prints the notes of its journal to the place where the error goes too,
such as the warning about a fixture that did not match its header; they are no part of `errors`. -/
structure Response where
  code : Nat
  output : String
  /-- The error that the command ends with, empty if there is none. -/
  errors : String
deriving DecidableEq, Repr

/-- The end of a command, or the viewer that it opens. -/
inductive Answer where
  | finished (response : Response)
  | opened (viewer : Viewer)

namespace Response

/-- The end of a command that printed lines and found all well or not. -/
def ofLines (passed : Bool) (lines : List String) : Response :=
  ⟨if passed then 0 else 1, String.join (lines.map (· ++ "\n")), ""⟩

/-- The end of a command with an error of the given form. -/
def ofError (form : String) : Response := ⟨1, "", "Error: " ++ form ++ "\n"⟩

/-- How the program is called. This line stands where the argument parser prints a message of its
own wording, about the arguments at hand or with a list of all commands and flags. -/
def usage : String := "usage: declcheck [-v] view FILE | check FILE | fixtures [DIR]\n"

/-- The end of a command whose arguments are none, with the usage for what the parser says. -/
def badUsage : Response := ⟨2, "", usage⟩

/-- What the program is for. -/
def purpose : String :=
  "Lexical, syntax and semantic checks for \x60type name = value;\x60 declarations\n"

/-- The end of a command that asks for help: what the program is for, with the usage for the rest of
what the parser says. -/
def help : Response := ⟨0, purpose ++ "\n" ++ usage, ""⟩

end Response

/-- The form in which the error of an unreadable file is shown by its fields. -/
def readErrorForm (e : ReadError) : String :=
  match e.code? with
  | some (code, kind) =>
    "Os \x7b code: " ++ toString code ++ ", kind: " ++ kind ++ ", message: "
      ++ String.ofList (Text.quote e.reason.toList) ++ " \x7d"
  | none =>
    "Error \x7b kind: InvalidData, message: " ++ String.ofList (Text.quote e.reason.toList)
      ++ " \x7d"

/-- The form in which the error of a fixture is shown by its fields. -/
def fixtureErrorForm : FixtureError → String
  | .unreadable path e =>
    "Io \x7b path: " ++ String.ofList (Text.quote path) ++ ", source: " ++ readErrorForm e
      ++ " \x7d"
  | .badHeader path e =>
    "Header \x7b path: " ++ String.ofList (Text.quote path) ++ ", message: "
      ++ String.ofList (Text.quote e.message.toList) ++ " \x7d"

/-- The form in which the error of an unreadable source is shown. -/
def unreadableForm (file : Text) (e : ReadError) : String :=
  String.ofList (Text.quote ("cannot read '" ++ String.ofList file ++ "': " ++ e.message).toList)

/-- The lines about what a phase produced. -/
def productLines (a : Analysis) : Phase → List String
  | .lexical => a.tokens.toList.map fun tokens => "  " ++ toString tokens.length ++ " token(s)"
  | .syntactic =>
    a.tree.toList.flatMap fun tree =>
      (Text.lines tree.outline.text).map fun line => "  " ++ String.ofList line
  | .semantic => (a.findings.getD []).map fun finding => "  " ++ finding.describe

/-- The lines about an analysis: the outcome of every phase and what it produced. -/
def analysisLines (a : Analysis) : List String :=
  Phase.all.flatMap fun phase =>
    (String.ofList (Text.padRight 9 (phase.name ++ ":").toList) ++ " "
      ++ (a.outcome phase).describe) :: productLines a phase

/-- The end of checking a source text. -/
def checkSource (source : Text) : Response :=
  let a := analyze source
  .ofLines a.isClean (analysisLines a)

/-- The end of running fixtures with the given reports. -/
def reportAll (reports : List Report) : Response :=
  let failed := (reports.filter (!·.passed)).length
  .ofLines (failed = 0) <|
    reports.map (·.describe) ++
      ["\n" ++ toString reports.length ++ " fixture(s), " ++ toString (reports.length - failed)
        ++ " passed, " ++ toString failed ++ " failed"]

/-- What a command comes to. -/
def Command.answer (disk : Disk) : Command → Answer
  | view file =>
    match disk.read file with
    | .error e => .finished (.ofError (unreadableForm file e))
    | .ok source => .opened (.start file source)
  | check file =>
    match disk.read file with
    | .error e => .finished (.ofError (unreadableForm file e))
    | .ok source => .finished (checkSource source)
  | fixtures directory =>
    match Fixture.runDirectory disk directory with
    | .error e => .finished (.ofError (fixtureErrorForm e))
    | .ok reports => .finished (reportAll reports)

/-- What a command line comes to. -/
def answer (disk : Disk) (arguments : List Text) : Answer :=
  match Request.ofArguments? arguments with
  | none => .finished .badUsage
  | some .help => .finished .help
  | some .version => .finished ⟨0, "declcheck 0.1.0\n", ""⟩
  | some (.run command) => command.answer disk

end DeclLang.CommandLine
