/-
Log filters: which log records are shown, by directives of which the most
specific one that is about a record decides.
-/
import AccessPolicy.Log.Directive

namespace AccessPolicy

/-- A log filter: its directives, the most specific first. -/
structure LogFilter where
  directives : List Directive
deriving DecidableEq

namespace LogFilter

/-- The filter of some directives. Without any, only errors are shown. -/
def ofDirectives : List Directive → LogFilter
  | [] => ⟨[{ threshold := some .error }]⟩
  | ds => ⟨(ds.filter Directive.isStatic).foldl (fun l d => d.place l) []⟩

/-- Whether a record is shown. -/
def admits (f : LogFilter) (r : LogRecord) : Bool :=
  match f.directives.find? fun d => d.concerns r with
  | some d => d.threshold.admits r.level
  | none => false

/-- The texts of the directives in a list that is written with commas. -/
def texts (s : String) : List String := (Text.splitAt ',' s).filter fun t => !t.isEmpty

/-- The filter that a text spells, if all of its directives are in order. -/
def parse? (s : String) : Option LogFilter :=
  match (texts s).mapM Directive.parse with
  | .ok ds => some (ofDirectives ds)
  | .error _ => none

/-- The filter of those directives of a text that are in order, and what is
said about the others. -/
def parseLossy (s : String) : LogFilter × List String :=
  let parsed := (texts s).map fun t => (t, Directive.parse t)
  (ofDirectives (parsed.filterMap fun p => p.2.toOption),
   parsed.filterMap fun p => match p.2 with
    | .ok _ => none
    | .error e => some ("ignoring `" ++ p.1 ++ "`: " ++ e.message))

end LogFilter

/-- The line of a record in a log. -/
def LogRecord.line (r : LogRecord) : String :=
  r.level.name ++ " " ++ r.target ++ ": " ++ r.message
    ++ String.join (r.fields.map fun f => " " ++ f.1 ++ "=" ++ f.2.shown)

end AccessPolicy
