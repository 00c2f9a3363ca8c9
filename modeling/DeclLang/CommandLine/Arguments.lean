import DeclLang.Text.Basic

/-!
# Command line arguments

A command line names a command and its path: `view FILE`, `check FILE` or `fixtures [DIR]`. The flag
`-v` or `--verbose` may come once before the command and once after it. After `--` every argument
is a path. Asking for help or for the version ends the reading of arguments at once.
-/

namespace DeclLang.CommandLine

/-- What the program is asked to do. -/
inductive Command where
  | view (file : Text)
  | check (file : Text)
  | fixtures (directory : Text)
deriving DecidableEq, Repr

/-- What a command line asks for. -/
inductive Request where
  | run (command : Command)
  | version
  | help
deriving DecidableEq, Repr

/-- The names of the commands. -/
inductive CommandName where
  | view
  | check
  | fixtures
deriving DecidableEq, Repr

namespace CommandName

/-- The spelling of a command. -/
def spelling : CommandName → String
  | view => "view"
  | check => "check"
  | fixtures => "fixtures"

/-- The command with a given spelling. -/
def ofSpelling? (word : Text) : Option CommandName :=
  [view, check, fixtures].find? (·.spelling.toList == word)

/-- The command with a path, if it has one; only fixtures can be found without. -/
def complete? : CommandName → Option Text → Option Command
  | view, file => file.map .view
  | check, file => file.map .check
  | fixtures, directory => some (.fixtures (directory.getD "fixtures".toList))

end CommandName

/-- What an argument is before `--`. -/
inductive Argument where
  | word (w : Text)
  | flags (letters : List Char)
  | long (name : Text)
  | separator
deriving DecidableEq, Repr

/-- Tell flags from words: a single dash is a word. -/
def Argument.ofText : Text → Argument
  | ['-', '-'] => .separator
  | '-' :: '-' :: name => .long name
  | '-' :: c :: rest => .flags (c :: rest)
  | w => .word w

/-- What flag letters ask for: an end with a request, or the verbosity after them; none if one is
unknown or repeated. -/
def readFlags (allowVersion verbose : Bool) : List Char → Option (Request ⊕ Bool)
  | [] => some (.inr verbose)
  | 'v' :: rest => if verbose then none else readFlags allowVersion true rest
  | 'h' :: _ => some (.inl .help)
  | 'V' :: _ => if allowVersion then some (.inl .version) else none
  | _ :: _ => none

/-- The flag letters of a long flag. -/
def lettersOfLong (name : Text) : List Char :=
  if name = "verbose".toList then ['v']
  else if name = "help".toList then ['h']
  else if name = "version".toList then ['V']
  else ['?']

/-- Take a path, which may not be empty, unless there is one already. -/
def takePath (path : Option Text) (word : Text) : Option Text :=
  if path.isSome ∨ word = [] then none else some word

/-- The request of a command after `--`. -/
def readPaths (name : CommandName) (path : Option Text) : List Text → Option Request
  | [] => (name.complete? path).map .run
  | word :: rest =>
    match takePath path word with
    | none => none
    | some word => readPaths name (some word) rest

/-- The request of a command with the arguments after it; none if they are no command line. -/
def readCommand (name : CommandName) (verbose : Bool) (path : Option Text) :
    List Text → Option Request
  | [] => (name.complete? path).map .run
  | argument :: rest =>
    match Argument.ofText argument with
    | .separator => readPaths name path rest
    | .word word =>
      match takePath path word with
      | none => none
      | some word => readCommand name verbose (some word) rest
    | .flags letters =>
      match readFlags false verbose letters with
      | none => none
      | some (.inl request) => some request
      | some (.inr verbose) => readCommand name verbose path rest
    | .long long =>
      match readFlags false verbose (lettersOfLong long) with
      | none => none
      | some (.inl request) => some request
      | some (.inr verbose) => readCommand name verbose path rest

/-- The request for help on a command, or on the whole. -/
def readHelp : List Text → Option Request
  | [] => some .help
  | [word] =>
    if word = "help".toList ∨ (CommandName.ofSpelling? word).isSome then some .help else none
  | _ => none

/-- The request of a command line when `-v` was or was not given yet; none if it is none. -/
def readFrom (verbose : Bool) : List Text → Option Request
  | [] => none
  | argument :: rest =>
    match Argument.ofText argument with
    | .separator => none
    | .word word =>
      if word = "help".toList then readHelp rest
      else
        match CommandName.ofSpelling? word with
        | none => none
        | some name => readCommand name false none rest
    | .flags letters =>
      match readFlags true verbose letters with
      | none => none
      | some (.inl request) => some request
      | some (.inr verbose) => readFrom verbose rest
    | .long long =>
      match readFlags true verbose (lettersOfLong long) with
      | none => none
      | some (.inl request) => some request
      | some (.inr verbose) => readFrom verbose rest

/-- The request of a command line; none if it is none. -/
def Request.ofArguments? (arguments : List Text) : Option Request := readFrom false arguments

end DeclLang.CommandLine
