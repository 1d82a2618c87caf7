/-
Settings on disk: a single file, read by the types of its fields, and the
layers that belong to a project.
-/
import AccessPolicy.Files.Locations
import AccessPolicy.Layers.Stack
import AccessPolicy.Toml.Format

namespace AccessPolicy

/-! ## A single file -/

/-- Why a file cannot be read as settings. -/
inductive SettingsFileError where
  | unreadable (path : String) (cause : FileError)
  | malformed (path : String)
deriving DecidableEq

/-- The error, in words. -/
def SettingsFileError.message : SettingsFileError → String
  | unreadable path cause => "Failed to read config file at " ++ path ++ ": " ++ cause.message
  | malformed path => "Failed to parse TOML config at " ++ path

/-- Reads settings from a file. -/
def Settings.ofFile (t : FileTree) (here : Place) (path : String) :
    Except SettingsFileError Settings := do
  let s ← (t.readText here path).mapError (.unreadable path)
  match Toml.readSettings? s with
  | some settings => .ok settings
  | none => .error (.malformed path)

/-! ## Layers -/

namespace Stack

/-- The path of the file that is meant by a path: the file there, or else the one
whose name is that path with the usual ending. -/
def sourcePath (t : FileTree) (here : Place) (path : String) : String :=
  if (t.file? here path).isSome then path else Path.addEnding path ".toml"

/-- The content of the file that is meant by a path, if it can be read. -/
def source? (t : FileTree) (here : Place) (path : String) : Option Bytes :=
  (t.read here (sourcePath t here path)).toOption

/-- The content of the file at a path. If nothing is there, or nothing that can be
read, there is none. -/
def layerFile (t : FileTree) (here : Place) (path : String) : Option Bytes :=
  if t.contains here path then source? t here path else none

/-- The file that is named on purpose. One that cannot be read counts as missing. -/
def namedFile (t : FileTree) (here : Place) (path : String) : NamedFile :=
  match source? t here path with
  | some content => .present content
  | none => .missing

/-- The layers of a project, and perhaps of a file that is named on purpose. -/
def ofFiles (t : FileTree) (s : Surroundings) (project : String) (explicit : Option String) :
    Stack where
  user := (Locations.userFile? s).bind (layerFile t s.here)
  project := layerFile t s.here (Locations.projectFile project)
  personal := layerFile t s.here (Locations.personalFile project)
  explicit := explicit.map (namedFile t s.here)
  environment := s.environment
  orders := s.orders
  room := s.room

end Stack

end AccessPolicy
