import DeclLang.Files.Path

/-!
# Files

A disk answers two questions about a path: what text is in the file there, and what names are in
the directory there. `FileTree` is a disk held in memory, made by writing and removing files; a
path leads through it name by name, and each name but the last has to be that of a directory.
-/

namespace DeclLang

/-- Why a path cannot be read. -/
inductive ReadError where
  | notFound
  | notDirectory
  | isDirectory
  | denied
  | invalidText
deriving DecidableEq, Repr

namespace ReadError

/-- What the operating system calls an error; a file that is no UTF-8 text is none of its errors. -/
def reason : ReadError → String
  | notFound => "No such file or directory"
  | notDirectory => "Not a directory"
  | isDirectory => "Is a directory"
  | denied => "Permission denied"
  | invalidText => "stream did not contain valid UTF-8"

/-- The number and the name of an error of the operating system. -/
def code? : ReadError → Option (Nat × String)
  | notFound => some (2, "NotFound")
  | notDirectory => some (20, "NotADirectory")
  | isDirectory => some (21, "IsADirectory")
  | denied => some (13, "PermissionDenied")
  | invalidText => none

/-- The wording of an error, with its number if it has one. -/
def message (e : ReadError) : String :=
  match e.code? with
  | some (code, _) => e.reason ++ " (os error " ++ toString code ++ ")"
  | none => e.reason

end ReadError

/-- What can be asked about files. -/
structure Disk where
  /-- The text of the file at a path. -/
  read : Text → Except ReadError Text
  /-- The names in the directory at a path, in any order. -/
  list : Text → Except ReadError (List Text)

/-- What is at a place in a file tree. -/
inductive FileTree.Entry where
  | file (bytes : ByteArray)
  | directory

/-- The files and directories below a root, each at the names that lead to it. -/
structure FileTree where
  entries : List (List Text × FileTree.Entry)

namespace FileTree

/-- The tree with nothing but its root. -/
def empty : FileTree := ⟨[]⟩

/-- What is at a place; the root is a directory. -/
def entry? (tree : FileTree) (place : List Text) : Option Entry :=
  if place = [] then some .directory
  else (tree.entries.find? (·.1 == place)).map (·.2)

/-- The place one name on from a place. -/
def step (place : List Text) (name : Text) : List Text :=
  if name = [] ∨ name = ['.'] then place
  else if name = ['.', '.'] then place.dropLast
  else place ++ [name]

/-- The place that names lead to from a place, if every place left on the way is a directory. -/
def walk (tree : FileTree) (place : List Text) : List Text → Except ReadError (List Text)
  | [] => .ok place
  | name :: rest =>
    match tree.entry? place with
    | none => .error .notFound
    | some (.file _) => .error .notDirectory
    | some .directory => tree.walk (step place name) rest

/-- What is at a path. -/
def resolve (tree : FileTree) (path : Text) : Except ReadError (List Text × Entry) := do
  if path = [] then throw .notFound
  let place ← tree.walk [] (path.splitOn '/')
  match tree.entry? place with
  | none => throw .notFound
  | some entry => return (place, entry)

/-- The text of the file at a path. -/
def read (tree : FileTree) (path : Text) : Except ReadError Text := do
  match ← tree.resolve path with
  | (_, .directory) => throw .isDirectory
  | (_, .file bytes) =>
    match String.fromUTF8? bytes with
    | none => throw .invalidText
    | some text => return text.toList

/-- The names in the directory at a path. -/
def list (tree : FileTree) (path : Text) : Except ReadError (List Text) := do
  match ← tree.resolve path with
  | (_, .file _) => throw .notDirectory
  | (place, .directory) =>
    return tree.entries.filterMap fun (names, _) =>
      if names.dropLast = place then names.getLast? else none

/-- The tree as a disk. -/
def disk (tree : FileTree) : Disk := ⟨tree.read, tree.list⟩

/-- The tree with an entry put at a place. -/
def put (tree : FileTree) (place : List Text) (entry : Entry) : FileTree :=
  ⟨(place, entry) :: tree.entries.filter (·.1 != place)⟩

/-- The places above a place, from the top. -/
def above (place : List Text) : List (List Text) :=
  (List.range place.length).tail.map (place.take ·)

/-- The tree with an entry written at a path, and every directory on the way to it. -/
def write (tree : FileTree) (path : Text) (entry : Entry) : FileTree :=
  let place := (path.splitOn '/').foldl step []
  let missing := (above place).filter fun place => (tree.entry? place).isNone
  (missing.foldl (fun tree place => tree.put place .directory) tree).put place entry

/-- The tree without what was at a path and below it. -/
def remove (tree : FileTree) (path : Text) : FileTree :=
  match tree.resolve path with
  | .error _ => tree
  | .ok (place, _) => ⟨tree.entries.filter fun (names, _) => !place.isPrefixOf names⟩

end FileTree

end DeclLang
