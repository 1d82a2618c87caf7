/-
Running the program: from a command line and the files around it to its
output, its exit code and the files that it leaves.
-/
import AccessPolicy.Command.Check
import AccessPolicy.Command.Init
import AccessPolicy.Command.Policies
import AccessPolicy.Command.Show
import AccessPolicy.Command.Validate

namespace AccessPolicy.Command

/-- The version of the program. -/
def programVersion : String := "0.3.0"

/-- What is said about the program and what it runs on. -/
def versionLines (s : Surroundings) : List Terminal.Line :=
  [Terminal.plain ("warden " ++ programVersion),
    Terminal.spacer,
    Terminal.plain "Declarative authorization policies, compiled.",
    Terminal.spacer,
    Terminal.plain "Build info:",
    Terminal.plain ("  Target:       " ++ s.machine),
    Terminal.plain ("  OS:           " ++ s.system)]

/-- How the program is used. -/
def usage : String :=
  "Usage: warden [--project <PROJECT>] [--config <CONFIG>] [--no-color] <COMMAND>\n"
    ++ "Commands: version, init, policies, check, config show, config validate"

/-- What the program leaves behind. -/
structure Result where
  code : Nat
  out : String := ""
  err : List String := []
  files : FileTree
deriving DecidableEq

namespace Invocation

/-- The layers of settings that an invocation works with. -/
def stack (i : Invocation) (t : FileTree) (s : Surroundings) : Stack :=
  .ofFiles t s i.project i.config

/-- The same layers as they come when the program starts. -/
def startStack (i : Invocation) (t : FileTree) (s : Surroundings) : Stack :=
  { i.stack t s with orders := s.startOrders }

/-- Performs the action of an invocation. -/
def perform (i : Invocation) (t : FileTree) (s : Surroundings) : FileTree × Report :=
  match i.action with
  | .version => (t, { out := versionLines s })
  | .init path => init t s.here path
  | .policies => (t, policies (i.stack t s))
  | .check policy principal => (t, check (i.stack t s) policy principal)
  | .showSettings format => (t, showSettings (i.stack t s) format)
  | .validate => (t, validate t s i.project i.config)

/-- The level that the settings ask for. -/
def level : Except LoadError Settings → String
  | .ok settings => settings.logging.level
  | .error _ => ({} : Logging).level

/-- The filter for log records, and what is said about it: the environment's
if it has one that is in order, or else that of the settings. -/
def filter (s : Surroundings) (loaded : Except LoadError Settings) : LogFilter × List String :=
  match (s.valueOf? "RUST_LOG").bind LogFilter.parse? with
  | some f => (f, [])
  | none => LogFilter.parseLossy (level loaded)

/-- The paths at which an invocation may look for files. -/
def paths (i : Invocation) (s : Surroundings) : List String :=
  let layers := (Locations.userFile? s).toList ++ candidates i.project i.config
  let target := match i.action with
    | .init path => [path, Locations.projectFile path, Path.join path ignoreName]
    | _ => []
  layers ++ layers.map (Path.addEnding · ".toml") ++ target

/-- What is said first if the settings cannot be loaded. -/
def warning : Except LoadError Settings → List Notice
  | .ok _ => []
  | .error e => [.log ⟨.warn, "warden",
      "Configuration failed to load, using default log level", [("error", .text e.opening)]⟩]

/-- The line of a notice, unless the filter holds it back. -/
def noticeLine (colours : Bool) (f : LogFilter) : Notice → Option String
  | .log r => if f.admits r then some r.line else none
  | .line l => some (Terminal.render colours l)

/-- Runs the action of an invocation, after what came of loading the settings. -/
def runLoaded (i : Invocation) (t : FileTree) (s : Surroundings)
    (loaded : Except LoadError Settings) : Result :=
  let (f, remarks) := filter s loaded
  let (files, report) := i.perform t s
  let notices := warning loaded ++ report.notices
  let errors := report.error.toList.map fun e => "Error: " ++ e.message
  { code := if report.error.isSome then 1 else 0
    out := String.join (report.out.map fun l => Terminal.render i.colours l ++ "\n")
    err := remarks ++ notices.filterMap (noticeLine i.colours f) ++ errors
    files }

/-- The exit code of a program that stops where it cannot go on. -/
def stoppedCode : Nat := 101

/-- Runs an invocation. It loads the settings first, and if that does not come
back, the program stops before anything is done. What the system says of that is
left out. -/
def run (i : Invocation) (t : FileTree) (s : Surroundings) : Result :=
  match (i.startStack t s).load with
  | .error .noRoom => { code := stoppedCode, files := t }
  | loaded => i.runLoaded t s loaded

end Invocation

/-- Runs the program. -/
def run (t : FileTree) (s : Surroundings) (args : List String) : Result :=
  match Invocation.parse args with
  | .ok i => i.run t s
  | .error .usage => { code := 2, err := [usage], files := t }
  | .error .help => { code := 0, out := usage ++ "\n", files := t }
  | .error (.version names) =>
    let program := "-".intercalate ("warden" :: names)
    { code := 0, out := program ++ " " ++ programVersion ++ "\n", files := t }

end AccessPolicy.Command
