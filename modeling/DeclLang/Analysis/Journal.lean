import DeclLang.Analysis.Basic

/-!
# Journals

The journal of an operation lists what it notes while it works, in order. It is a function of the
operation's input, so the operations themselves need not carry it. A phase that is refused notes
nothing; lexing and parsing note their success only, and the semantic phase notes every accepted
variable whose initial value is no literal.
-/

namespace DeclLang

/-- How urgent a note is. -/
inductive Note.Level where
  | debug
  | warn
deriving DecidableEq, Repr

/-- The name of a level. -/
def Note.Level.name : Note.Level → String
  | .debug => "debug"
  | .warn => "warn"

/-- One entry of a journal. -/
structure Note where
  level : Note.Level
  text : String
deriving DecidableEq, Repr

/-- A note that is of interest only while looking for a mistake. -/
def Note.debug (text : String) : Note := ⟨.debug, text⟩

namespace Journal

/-- The notes of the lexical phase on a source text. -/
def lexing (source : Text) : List Note :=
  match lex source with
  | .ok tokens =>
    [.debug ("lexed " ++ toString tokens.length ++ " token(s) from "
      ++ toString (Text.byteSize source) ++ " byte(s)")]
  | .error _ => []

/-- The notes of the syntax phase on a source text. -/
def parsing (source : Text) : List Note :=
  match parseDeclarations source with
  | .ok ds => [.debug ("parsed " ++ toString ds.length ++ " declaration(s)")]
  | .error _ => []

/-- The notes on declarations in order when the given names are taken before the first. -/
def checkingFrom (taken : List Text) : List Declaration → List Note
  | [] => []
  | d :: rest =>
    let unverified := (PrimitiveType.ofName? d.typeName).isSome && d.identifier ∉ taken
      && (Literal.infer d.expression).isNone
    (if unverified then
      [.debug ("initializer of '" ++ String.ofList d.identifier
        ++ "' is not a literal, left unverified")]
    else []) ++ checkingFrom (d.takeName taken) rest

/-- The notes of the semantic phase on a tree. -/
def checking (tree : Tree) : List Note := checkingFrom [] tree.declarations

/-- The notes of running a phase of an analysis on a source text. -/
def running (a : Analysis) (phase : Phase) (source : Text) : List Note :=
  match a.run phase source with
  | .error _ => []
  | .ok b =>
    let inner := match phase with
      | .lexical => lexing source
      | .syntactic => parsing source
      | .semantic => (a.tree.map checking).getD []
    .debug ("running " ++ phase.name ++ " phase") :: inner
      ++ [.debug (phase.name ++ " phase: " ++ (b.outcome phase).describe)]

/-- The notes of running phases in turn up to the first that is refused. -/
def runningEach (a : Analysis) (source : Text) : List Phase → List Note
  | [] => []
  | phase :: rest =>
    match a.run phase source with
    | .error _ => []
    | .ok b => running a phase source ++ runningEach b source rest

/-- The notes of the analysis of a source text by all phases. -/
def analyzing (source : Text) : List Note := runningEach .fresh source Phase.all

end Journal

end DeclLang
