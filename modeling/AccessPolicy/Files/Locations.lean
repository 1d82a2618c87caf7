/-
Where the files with settings are.
-/
import AccessPolicy.Files.Tree
import AccessPolicy.Layers.Stack

namespace AccessPolicy

/-- What a program finds around it besides the files. -/
structure Surroundings where
  /-- The folder that paths start from. -/
  here : Place
  /-- The environment variables. -/
  environment : List (String × String) := []
  /-- The home that the system knows for the user. -/
  home : Option String := none
  /-- The orders in which the entries of the settings' sources come when the
  program starts. -/
  startOrders : Orders := {}
  /-- The orders when a command loads the settings again. -/
  orders : Orders := {}
  /-- The most elements that there is room for in a list. -/
  room : Nat := Layer.maxElements
  /-- The kind of processor. -/
  machine : String := "unknown"
  /-- The operating system. -/
  system : String := "unknown"
deriving DecidableEq

/-- The value of an environment variable. -/
def Surroundings.valueOf? (s : Surroundings) (name : String) : Option String :=
  (s.environment.find? fun v => v.1 = name).map (·.2)

namespace Locations

/-- The name of the file with the settings of a project. -/
def projectName : String := "warden.toml"

/-- The name of the file with the settings of one copy of a project. -/
def personalName : String := "warden.local.toml"

/-- The file with the settings of a project. -/
def projectFile (project : String) : String := Path.join project projectName

/-- The file with the settings of one copy of a project. -/
def personalFile (project : String) : String := Path.join project personalName

/-- The user's home: what the environment says, or else what the system knows. -/
def home? (s : Surroundings) : Option String :=
  ((s.valueOf? "HOME").filter fun home => !home.isEmpty).or s.home

/-- The folder for the settings of all programs of a user with a home. It is named
by an absolute path in the environment, or else it is in that home. -/
def configFolder? (s : Surroundings) : Option String :=
  (home? s).map fun home =>
    ((s.valueOf? "XDG_CONFIG_HOME").filter Path.isAbsolute).getD (Path.join home ".config")

/-- The folder for the settings of a user. -/
def userFolder? (s : Surroundings) : Option String := (configFolder? s).map (Path.join · "warden")

/-- The file with the settings of a user. -/
def userFile? (s : Surroundings) : Option String := (userFolder? s).map (Path.join · "config.toml")

/-- Whether a project has settings. -/
def isInitialized (t : FileTree) (s : Surroundings) (project : String) : Bool :=
  t.contains s.here (projectFile project)

end Locations

end AccessPolicy
