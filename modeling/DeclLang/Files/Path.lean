import DeclLang.Text.Basic

/-!
# Paths

A path is a text of names between slashes. Its file name is the last name other than `.`, unless
that is `..`. The last dot of a file name separates stem and extension, but a dot at its very front
does not.
-/

namespace DeclLang.Path

/-- The names of a path that lead somewhere: neither empty nor `.`. -/
def names (path : Text) : List Text :=
  (path.splitOn '/').filter fun name => name ≠ [] ∧ name ≠ ['.']

/-- The name of the file at a path; none for a path that ends in `..` or has no names. -/
def fileName? (path : Text) : Option Text :=
  match (names path).getLast? with
  | none => none
  | some name => if name = ['.', '.'] then none else some name

/-- A file name cut at its last dot, unless that is its first character or there is none. -/
def splitExtension (name : Text) : Text × Option Text :=
  let after := (name.reverse.takeWhile (· ≠ '.')).reverse
  let stem := name.take (name.length - after.length - 1)
  if after.length = name.length ∨ stem = [] then (name, none) else (stem, some after)

/-- The file name at a path without its extension. -/
def stem? (path : Text) : Option Text := (fileName? path).map (splitExtension · |>.1)

/-- The extension of a file name. -/
def extension? (name : Text) : Option Text := (splitExtension name).2

/-- The path of a name in a directory. -/
def join (directory name : Text) : Text :=
  if directory = [] ∨ directory.getLast? = some '/' then directory ++ name
  else directory ++ '/' :: name

end DeclLang.Path
