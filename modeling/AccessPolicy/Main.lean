/-
The program: it looks up the files that an invocation may need, runs it, and
writes what it prints and the files that it changes.
-/
import AccessPolicy.Command.Run

namespace AccessPolicy.Program

/-- The text of some bytes, if they are text. -/
def text? (bytes : ByteArray) : Option String := Text.ofBytes? bytes.toList

/-- The environment variables in the system's own notation: each ends in a
zero byte, and an equals sign stands between name and value. -/
def variablesOf (s : String) : List (String × String) :=
  (Text.splitAt '\x00' s).filterMap fun entry =>
    match entry.toList.dropWhile (· != '=') with
    | _ :: value => some (String.ofList (entry.toList.takeWhile (· != '=')), String.ofList value)
    | [] => none

/-- The text of a file that may be missing. -/
def contentOf (path : String) : IO String := do
  try
    return (text? (← IO.FS.readBinFile path)).getD ""
  catch _ => return ""

/-- The number of the user that the status of a process tells. -/
def userOf? (status : String) : Option String :=
  (Text.splitAt '\n' status).findSome? fun line =>
    match Text.splitAt '\t' line with
    | "Uid:" :: user :: _ => some user
    | _ => none

/-- The home of a user in the list of users. -/
def homeIn? (users user : String) : Option String :=
  (Text.splitAt '\n' users).findSome? fun line =>
    match Text.splitAt ':' line with
    | [_, _, number, _, _, home, _] => if number = user then some home else none
    | _ => none

/-- What the program finds around it. -/
def surroundings : IO Surroundings := do
  let here := (Path.components (← IO.currentDir).toString).filter fun n => !n.isEmpty
  let users ← contentOf "/etc/passwd"
  return {
    here
    environment := variablesOf (← contentOf "/proc/self/environ")
    home := (userOf? (← contentOf "/proc/self/status")).bind (homeIn? users)
    machine := Text.trim (← contentOf "/proc/sys/kernel/arch")
    system := "linux" }

/-- The places on the way that a path takes from a folder. -/
def placesOn (here : Place) : List String → List Place
  | [] => [here]
  | name :: names =>
    if name = "" ∨ name = "." then placesOn here names
    else if name = ".." then placesOn here.dropLast names
    else here :: placesOn (here ++ [name]) names

/-- What is on disk at a place, and why it cannot be read. -/
def entryAt (p : Place) : IO (Option (FileEntry × Option FileError)) := do
  try
    return some (.file (← IO.FS.readBinFile p.path).toList, none)
  catch
    | .inappropriateType .. => return some (.folder, none)
    | .permissionDenied .. => return some (.file [], some .denied)
    | .hardwareFault .. => return some (.file [], some .broken)
    | _ => return none

/-- The part of the disk on the way that some paths take. -/
def snapshot (here : Place) (paths : List String) : IO FileTree := do
  let places := paths.flatMap fun path =>
    placesOn (if Path.isAbsolute path then [] else here) (Path.components path)
  let mut t : FileTree := ({} : FileTree).put here .folder
  for p in places do
    if let some (entry, failure) ← entryAt p then
      t := t.put p entry
      if failure.isSome then
        t := { t with hindrances := (p, { read := failure }) :: t.hindrances }
  return t

/-- Writes the changes that lead from one tree to another to the disk, oldest first. -/
def store (before after : FileTree) : IO Unit := do
  let changes := after.entries.take (after.entries.length - before.entries.length)
  for (place, entry) in changes.reverse do
    match entry with
    | .folder => IO.FS.createDirAll place.path
    | .file content => IO.FS.writeBinFile place.path ⟨content.toArray⟩

/-- Runs the program. -/
def run (args : List String) : IO UInt32 := do
  let s ← surroundings
  let paths := match Command.Invocation.parse args with
    | .ok i => i.paths s
    | .error _ => []
  let t ← snapshot s.here paths
  let result := Command.run t s args
  store t result.files
  IO.print result.out
  for line in result.err do IO.eprintln line
  return result.code.toUInt32

end AccessPolicy.Program

/-- Runs the program. -/
def main (args : List String) : IO UInt32 := AccessPolicy.Program.run args
