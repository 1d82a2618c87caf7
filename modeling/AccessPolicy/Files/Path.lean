/-
The paths of files as they are written.
-/
import AccessPolicy.Text.Space

namespace AccessPolicy.Path

/-- Whether the path starts at the root. -/
def isAbsolute (path : String) : Bool := path.toList.head? == some '/'

/-- The path of a name in a folder. -/
def join (folder name : String) : String :=
  let l := folder.toList
  if l.isEmpty || l.getLast? == some '/' then folder ++ name else folder ++ "/" ++ name

/-- The names between the slashes of a path. -/
def components (path : String) : List String := Text.splitAt '/' path

/-- The paths that end in a name, given the names from the last to the first. -/
def namedFrom : List String → List String
  | [] => []
  | name :: names =>
    if name = "" ∨ name = "." then namedFrom names
    else "/".intercalate (name :: names).reverse :: namedFrom names

/-- The paths of the folders that a path leads through, the nearest first. -/
def above (path : String) : List String := (namedFrom (components path).reverse).drop 1

/-- The path without the slashes and single dots at its end, which add nothing
to the name before them. -/
def trimEnd (path : String) : String :=
  let names := ((components path).reverse.dropWhile fun n => n == "" || n == ".").reverse
  "/".intercalate names

/-- Whether a name has an ending: a dot that is not its first character. -/
def hasEnding (name : String) : Bool := (name.toList.drop 1).contains '.'

/-- The path with an ending added to its last name. A path that does not end
in a name is left alone. If the name has an ending, the path is kept as it is
written, and what follows a slash at its end is a name of its own. -/
def addEnding (path ending : String) : String :=
  let trimmed := trimEnd path
  match (components trimmed).getLast? with
  | some ".." => path
  | some "" => path
  | none => path
  | some name =>
    if !hasEnding name then trimmed ++ ending
    else if path.toList.getLast? == some '/' then path ++ ".placeholder" ++ ending
    else path ++ ending

end AccessPolicy.Path
