/-
Trees of files and folders, and what programs do with them. What the system
refuses at a place, or what fails there, is a part of the tree (`Hindrance`).

`at?_put` says what a change does to what is found at a place, and
`hindrance_put` that it does not change what is refused.
-/
import AccessPolicy.Files.Path
import AccessPolicy.Text.Utf8

namespace AccessPolicy

/-- Why a file cannot be read or written. -/
inductive FileError where
  | notFound
  /-- A file stands where a folder is needed. -/
  | notFolder
  /-- A folder stands where a file is needed. -/
  | isFolder
  /-- The file is there, but it holds no text. -/
  | notText
  /-- Something stands already where a folder is to be made. -/
  | occupied
  /-- The path or one of its names is too long. -/
  | tooLong
  /-- The path holds a character that ends it for the operating system. -/
  | endsEarly
  /-- The program may not do that. -/
  | denied
  /-- The disk is full. -/
  | noSpace
  /-- The disk fails. -/
  | broken
deriving DecidableEq

/-- The error in the words of the operating system. -/
def FileError.message : FileError → String
  | notFound => "No such file or directory (os error 2)"
  | notFolder => "Not a directory (os error 20)"
  | isFolder => "Is a directory (os error 21)"
  | notText => "stream did not contain valid UTF-8"
  | occupied => "File exists (os error 17)"
  | tooLong => "File name too long (os error 36)"
  | endsEarly => "file name contained an unexpected NUL byte"
  | denied => "Permission denied (os error 13)"
  | noSpace => "No space left on device (os error 28)"
  | broken => "Input/output error (os error 5)"

/-- What is found at a place. -/
inductive FileEntry where
  | file (content : Bytes)
  | folder
deriving DecidableEq

/-- A place in a tree: the names on the way from the root. -/
abbrev Place := List String

/-- The place as an absolute path. -/
def Place.path (p : Place) : String := "/" ++ "/".intercalate p

/-- What goes wrong when something is written. -/
inductive WriteFailure where
  /-- Nothing is written: it is not allowed, or a link leads nowhere. -/
  | refused (cause : FileError)
  /-- There is room for so many bytes, and more are not written. -/
  | limited (room : Nat) (cause : FileError)
deriving DecidableEq

/-- What the system refuses at a place, or what fails there. -/
structure Hindrance where
  /-- Why the file cannot be read. -/
  read : Option FileError := none
  /-- Why the file or the folder cannot be made or changed. -/
  write : Option WriteFailure := none
deriving DecidableEq

/-- A tree of files and folders, as a program finds it. Of two entries for a
place the first counts, and so it does of two hindrances. -/
structure FileTree where
  entries : List (Place × FileEntry) := []
  hindrances : List (Place × Hindrance) := []
deriving DecidableEq

namespace FileTree

/-- The first entry for a place. -/
def find {α : Type} (p : Place) : List (Place × α) → Option α
  | [] => none
  | (q, e) :: l => if p = q then some e else find p l

/-- What is found at a place. The root is always there. -/
def at? (t : FileTree) (p : Place) : Option FileEntry :=
  match p with
  | [] => some .folder
  | p => find p t.entries

/-- What is refused at a place. -/
def hindrance (t : FileTree) (p : Place) : Hindrance := (find p t.hindrances).getD {}

/-- The tree with an entry at a place, whatever stood there before. -/
def put (t : FileTree) (p : Place) (e : FileEntry) : FileTree :=
  { t with entries := (p, e) :: t.entries }

theorem at?_put (t : FileTree) {p : Place} (hp : p ≠ []) (e : FileEntry) (q : Place) :
    (t.put p e).at? q = if q = p then some e else t.at? q := by
  cases q with
  | nil => simp [at?, Ne.symm hp]
  | cons a q => simp [at?, put, find]

@[simp] theorem hindrance_put (t : FileTree) (p : Place) (e : FileEntry) (q : Place) :
    (t.put p e).hindrance q = t.hindrance q := rfl

/-! ## Paths -/

/-- The most bytes of a name. -/
def maxName : Nat := 255

/-- The most bytes of a path. -/
def maxPath : Nat := 4095

/-- Where the names of a path lead to from a folder. All places on the way
must be folders; there may be nothing at the end of it. -/
def walk (t : FileTree) (here : Place) : List String → Except FileError Place
  | [] => .ok here
  | name :: names =>
    match t.at? here with
    | none => .error .notFound
    | some (.file _) => .error .notFolder
    | some .folder =>
      if name = "" ∨ name = "." then walk t here names
      else if name = ".." then walk t here.dropLast names
      else if maxName < name.utf8ByteSize then .error .tooLong
      else walk t (here ++ [name]) names

/-- Whether the operating system takes a path. -/
def checkPath (path : String) : Except FileError Unit :=
  if path.toList.contains '\x00' then .error .endsEarly
  else if maxPath < path.utf8ByteSize then .error .tooLong
  else if path.isEmpty then .error .notFound
  else .ok ()

/-- The folder that a path starts from, given the one that relative paths do. -/
def start (here : Place) (path : String) : Place := if Path.isAbsolute path then [] else here

/-- Where a path leads to, given the folder that paths start from. -/
def locate (t : FileTree) (here : Place) (path : String) : Except FileError Place := do
  checkPath path
  t.walk (start here path) (Path.components path)

/-- What a path leads to, if there is anything. -/
def entry? (t : FileTree) (here : Place) (path : String) : Option FileEntry :=
  match t.locate here path with
  | .ok p => t.at? p
  | .error _ => none

/-- Whether a path leads to a file or a folder. -/
def contains (t : FileTree) (here : Place) (path : String) : Bool := (t.entry? here path).isSome

/-- The content of the file that a path leads to, if it leads to one. -/
def file? (t : FileTree) (here : Place) (path : String) : Option Bytes :=
  match t.entry? here path with
  | some (.file content) => some content
  | _ => none

/-- Reads the file at a place. -/
def readAt (t : FileTree) (p : Place) : Except FileError Bytes :=
  match (t.hindrance p).read with
  | some cause => .error cause
  | none =>
    match t.at? p with
    | some (.file content) => .ok content
    | some .folder => .error .isFolder
    | none => .error .notFound

/-- Reads a file. -/
def read (t : FileTree) (here : Place) (path : String) : Except FileError Bytes := do
  t.readAt (← t.locate here path)

/-- Reads a file that holds text. -/
def readText (t : FileTree) (here : Place) (path : String) : Except FileError String := do
  match Text.ofBytes? (← t.read here path) with
  | some s => .ok s
  | none => .error .notText

/-- Writes the file at a place. Tells what went wrong; what could be written then
is left. -/
def writeAt (t : FileTree) (p : Place) (content : Bytes) : FileTree × Option FileError :=
  if t.at? p = some .folder then (t, some .isFolder)
  else match (t.hindrance p).write with
    | none => (t.put p (.file content), none)
    | some (.refused cause) => (t, some cause)
    | some (.limited room cause) =>
      if content.length ≤ room then (t.put p (.file content), none)
      else (t.put p (.file (content.take room)), some cause)

/-- Writes a file. -/
def write (t : FileTree) (here : Place) (path : String) (content : Bytes) :
    FileTree × Option FileError :=
  match t.locate here path with
  | .ok p => t.writeAt p content
  | .error e => (t, some e)

/-! ## Making folders -/

/-- Whether a path leads to a folder. -/
def isFolder (t : FileTree) (here : Place) (path : String) : Bool :=
  t.entry? here path = some .folder

/-- Makes a folder in one that is there. The path must end in a name of its own. -/
def makeFolder (t : FileTree) (here : Place) (path : String) : Except FileError FileTree := do
  checkPath path
  match (Path.components path).reverse.dropWhile (· = "") with
  | [] => .error .occupied
  | name :: above =>
    let folder ← t.walk (start here path) (above.reverse ++ ["."])
    if name = "." ∨ name = ".." then .error .occupied
    else if maxName < name.utf8ByteSize then .error .tooLong
    else if (t.at? (folder ++ [name])).isSome then .error .occupied
    else match (t.hindrance (folder ++ [name])).write with
      | some (.refused cause) => .error cause
      | some (.limited _ cause) => .error cause
      | none => .ok (t.put (folder ++ [name]) .folder)

/-- Makes the first of some folders, each of which is in the next. Those that
are missing are made first, and stay if something goes wrong later. -/
def makeEach (t : FileTree) (here : Place) : List String → FileTree × Bool
  | [] => (t, true)
  | path :: above =>
    match t.makeFolder here path with
    | .ok t => (t, true)
    | .error .notFound =>
      let (t, made) := makeEach t here above
      if !made then (t, false)
      else match t.makeFolder here path with
        | .ok t => (t, true)
        | .error _ => (t, t.isFolder here path)
    | .error _ => (t, t.isFolder here path)

/-- Makes the folder at a path and those on the way, and tells whether it is there. -/
def makeFolders (t : FileTree) (here : Place) (path : String) : FileTree × Bool :=
  t.makeEach here (path :: Path.above path)

end FileTree

end AccessPolicy
