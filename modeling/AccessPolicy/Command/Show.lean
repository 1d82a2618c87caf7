/-
Showing the merged settings: in short, as TOML, or as JSON.
-/
import AccessPolicy.Command.Report
import AccessPolicy.Json.Printer
import AccessPolicy.Toml.Printer

namespace AccessPolicy.Command

open Terminal (Line)

/-- In short, whom a rule lets in. -/
def summary (r : Rule) : String :=
  if r.allowed.isEmpty then "any authenticated principal"
  else ", ".intercalate r.allowed.toList

/-- The settings in short. -/
def overview (s : Settings) : List Line :=
  [[⟨.header, "Warden Configuration"⟩], Terminal.spacer,
    Terminal.plain "Logging:",
    Terminal.labelled "Level" s.logging.level,
    Terminal.labelled "Audit" (if s.logging.audit then "true" else "false"),
    Terminal.spacer,
    Terminal.plain "Policies:"]
  ++ (if s.policies.isEmpty && s.locked.isEmpty then [Terminal.labelled "Declared" "none"] else [])
  ++ (s.policies.toList.map fun e => Terminal.labelled e.1 (summary e.2))
  ++ s.locked.toList.map fun n => Terminal.labelled n "locked"

/-- The settings as TOML. -/
def tomlDump (s : Settings) : String := Toml.print s.toTree

/-- The settings as JSON. -/
def jsonDump (s : Settings) : String := Json.print Json.pretty 0 s.toTree

/-- Shows the merged settings. -/
def showSettings (stack : Stack) (format : String) : Report :=
  match stack.load with
  | .error _ => { error := some .notLoaded }
  | .ok settings =>
    match format with
    | "json" => { out := [Terminal.plain (jsonDump settings)] }
    | "toml" => { out := [Terminal.plain (tomlDump settings)] }
    | "text" => { out := overview settings }
    | other => { error := some (.unknownFormat other) }

end AccessPolicy.Command
