/-
Starting a project: writing settings to start with, and keeping the personal
settings out of version control.
-/
import AccessPolicy.Command.Report
import AccessPolicy.Toml.Printer

namespace AccessPolicy.Command

open Terminal (Line)

/-- The comment at the start of new settings. -/
def starterHeader : String :=
  "# Warden policy configuration.\n"
    ++ "#\n"
    ++ "# Each [policies.<name>] table declares one rule. Names listed in `locked`\n"
    ++ "# are registered with no rule and deny everyone.\n"
    ++ "#\n"
    ++ "# Allowed roles/users override the deny lists. With no allowed roles or\n"
    ++ "# users, the deny lists apply to every principal. An empty table admits any\n"
    ++ "# authenticated principal.\n"
    ++ "\n"

/-- The settings that a new project starts with, as a file. -/
def starter : String := starterHeader ++ Toml.print Settings.sample.toTree

/-- The name of the file that lists what is kept out of version control. -/
def ignoreName : String := ".gitignore"

/-- Whether a line of a list of ignored files names the personal settings. -/
def isIgnored (list : String) : Bool :=
  (Text.splitAt '\n' list).any fun line => Text.trim line = Locations.personalName

/-- The list with a line for the personal settings at its end. -/
def withIgnored (list : String) : String :=
  let ended := list.isEmpty || list.toList.getLast? == some '\n'
  list ++ (if ended then "" else "\n") ++ Locations.personalName ++ "\n"

/-- What is said at the end. -/
def closing (t : FileTree) (here : Place) (path : String) : List Line :=
  let location := match t.locate here path with
    | .ok p => p.path
    | .error _ => path
  [Terminal.spacer,
    Terminal.labelled "Location" location,
    Terminal.labelled "Policies" (toString Settings.sample.policies.size),
    Terminal.labelled "Locked" (toString Settings.sample.locked.size),
    Terminal.spacer,
    [⟨.header, "Next steps:"⟩],
    Terminal.spacer,
    Terminal.hint "List the compiled policies:",
    Terminal.sampleCommand ("warden --project " ++ path ++ " policies"),
    Terminal.spacer,
    Terminal.hint "Check a principal against a policy:",
    Terminal.sampleCommand ("warden --project " ++ path
      ++ " check reports --user ann --role analyst --claim dept=finance")]

/-- What is said when the settings are written. -/
def wroteLine : Line := Terminal.success ("Wrote " ++ Locations.projectName)

/-- What is said when the personal settings are ignored from now on. -/
def ignoredLine : Line :=
  Terminal.success ("Ignored " ++ Locations.personalName ++ " in " ++ ignoreName)

/-- Sees to it that the personal settings of a project are ignored. A list that
cannot be read counts as empty. -/
def ignorePersonal (t : FileTree) (here : Place) (path : String) : FileTree × Report :=
  let file := Path.join path ignoreName
  let list := (t.readText here file).toOption.getD ""
  if isIgnored list then (t, { out := wroteLine :: closing t here path })
  else
    let (t, failure) := t.write here file (Text.toBytes (withIgnored list))
    match failure with
    | some _ => (t, { out := [wroteLine], error := some (.notWritten ignoreName) })
    | none => (t, { out := wroteLine :: ignoredLine :: closing t here path })

/-- Starts a project in a folder. -/
def init (t : FileTree) (here : Place) (path : String) : FileTree × Report :=
  if t.contains here (Locations.projectFile path) then
    (t, { error := some (.initialized path) })
  else
    let (t, made) := t.makeFolders here path
    if !made then (t, { error := some .noFolder })
    else
      let (t, failure) := t.write here (Locations.projectFile path) (Text.toBytes starter)
      match failure with
      | some _ => (t, { error := some (.notWritten (Locations.projectFile path)) })
      | none => ignorePersonal t here path

end AccessPolicy.Command
