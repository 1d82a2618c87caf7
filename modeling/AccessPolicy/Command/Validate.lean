/-
Validating settings: each file of the project by itself, then all layers
together.
-/
import AccessPolicy.Command.Report

namespace AccessPolicy.Command

open Terminal (Line)

/-- The files that are validated by themselves. -/
def candidates (project : String) (config : Option String) : List String :=
  [Locations.projectFile project, Locations.personalFile project] ++ config.toList

/-- Reads those of some files that are there. Tells which were read before one
of them was found wrong. -/
def readEach (t : FileTree) (here : Place) : List String → List String × Option SettingsFileError
  | [] => ([], none)
  | path :: paths =>
    if t.contains here path then
      match Settings.ofFile t here path with
      | .error e => ([], some e)
      | .ok _ =>
        let (read, error) := readEach t here paths
        (path :: read, error)
    else readEach t here paths

/-- What is said about an error. -/
def failureNotices (s : String) : List Notice :=
  [.line (Terminal.failure "Configuration validation failed:"), .line (Terminal.plain ("  " ++ s))]

/-- Validates the settings of a project. -/
def validate (t : FileTree) (s : Surroundings) (project : String) (config : Option String) :
    Report :=
  let (read, error) := readEach t s.here (candidates project config)
  let out := Terminal.plain ("Validating configuration in " ++ project ++ "...")
    :: read.map (Terminal.labelled "Parsed")
  match error with
  | some e => { out, notices := failureNotices e.message, error := some (.invalidFile e) }
  | none =>
    match (Stack.ofFiles t s project config).load with
    | .error e => { out, notices := failureNotices e.opening, error := some (.invalidLayers e) }
    | .ok settings =>
      match settings.policySet with
      | .error name =>
        { out, notices := failureNotices (Settings.clashMessage name), error := some (.clash name) }
      | .ok set => {
          out := out ++ [Terminal.success
            ("Configuration is valid (" ++ toString set.compile.size ++ " policies)")]
          notices := Notice.ofEvents set.compileEvents }

end AccessPolicy.Command
