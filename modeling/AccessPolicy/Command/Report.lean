/-
What a command reports: lines of output, notices, and perhaps an error that
makes it fail.
-/
import AccessPolicy.Files.Settings
import AccessPolicy.Log.Filter
import AccessPolicy.Terminal.Style

namespace AccessPolicy.Command

/-- Why a command fails. -/
inductive CommandError where
  | badClaim (claim : String)
  | notLoaded
  | clash (name : String)
  | refused (refusal : Refusal)
  | initialized (project : String)
  | noFolder
  | notWritten (path : String)
  | unknownFormat (format : String)
  | invalidFile (error : SettingsFileError)
  | invalidLayers (error : LoadError)
deriving DecidableEq

/-- The error, in words. -/
def CommandError.message : CommandError → String
  | badClaim claim => "Invalid claim '" ++ claim ++ "': expected type=value"
  | notLoaded => "Failed to load configuration"
  | clash name => Settings.clashMessage name
  | refused refusal => refusal.message
  | initialized project =>
    "Project already initialized in " ++ project ++ ". " ++ Locations.projectName
      ++ " already exists."
  | noFolder => "Failed to create project directory"
  | notWritten path => "Failed to write " ++ path
  | unknownFormat format => "Unknown format '" ++ format ++ "'. Expected text, toml, or json."
  | invalidFile error => error.message
  | invalidLayers error => error.message

/-- Something that is said besides the output: a log record, which the filter
may hold back, or a line. -/
inductive Notice where
  | log (record : LogRecord)
  | line (line : Terminal.Line)
deriving DecidableEq

/-- What a command reports. -/
structure Report where
  out : List Terminal.Line := []
  notices : List Notice := []
  error : Option CommandError := none
deriving DecidableEq

/-- Events as notices. -/
def Notice.ofEvents (events : List Event) : List Notice := events.map fun e => .log e.record

end AccessPolicy.Command
