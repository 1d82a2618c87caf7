/-
The directives of a log filter: which records of which part of the program
are shown, as in `warn`, `some::part=debug` or `[{user}]=info`.
-/
import AccessPolicy.Event
import AccessPolicy.Log.Pattern

namespace AccessPolicy

/-- The least important level that is shown; nothing if no record is. -/
abbrev Threshold := Option Level

namespace Threshold

/-- The number of levels that are shown. -/
def rank : Threshold → Nat
  | none => 0
  | some l => l.rank

/-- Whether records of a level are shown. -/
def admits (t : Threshold) (l : Level) : Bool := l.rank ≤ rank t

/-- The threshold with a rank. -/
def ofRank? : Nat → Option Threshold
  | 0 => some none
  | 1 => some (some .error)
  | 2 => some (some .warn)
  | 3 => some (some .info)
  | 4 => some (some .debug)
  | 5 => some (some .trace)
  | _ => none

/-- The rank that a name stands for, in any case. -/
def ofName? (s : String) : Option Threshold :=
  match String.ofList (s.toList.map Char.toLower) with
  | "off" => some none
  | "" | "error" => some (some .error)
  | "warn" => some (some .warn)
  | "info" => some (some .info)
  | "debug" => some (some .debug)
  | "trace" => some (some .trace)
  | _ => none

/-- The number that consists of digits after an optional plus sign. -/
def number? (s : String) : Option Nat :=
  let digits := match s.toList with
    | '+' :: r => r
    | r => r
  if digits.isEmpty || !digits.all Char.isDigit then none
  else some (digits.foldl (fun n c => 10 * n + (c.toNat - '0'.toNat)) 0)

/-- The threshold that a name or a number stands for. -/
def ofText? (s : String) : Option Threshold := ((number? s).bind ofRank?).or (ofName? s)

end Threshold

/-- A condition on the fields of a record or of a stretch of work. -/
structure FieldMatch where
  name : String
  /-- Whether the field must have a certain value. -/
  valued : Bool
deriving DecidableEq

/-- A directive. -/
structure Directive where
  threshold : Threshold
  /-- What the part of the program that speaks has to start with. -/
  target : Option String := none
  /-- The stretch of work in which the directive counts. -/
  within : Option String := none
  fields : List FieldMatch := []
deriving DecidableEq

/-- What is wrong with a directive. -/
inductive DirectiveError where
  | malformed
  | level
  /-- The value of a field is neither a number nor a pattern. -/
  | value (e : PatternError)
deriving DecidableEq

/-- The error, in words. -/
def DirectiveError.message : DirectiveError → String
  | malformed => "invalid filter directive"
  | level => "error parsing level filter: expected one of \"off\", \"error\", \"warn\", "
      ++ "\"info\", \"debug\", \"trace\", or a number 0-5"
  | value e => "invalid field filter: " ++ e.message

namespace Directive

/-- The threshold that a directive ends in; an empty text shows everything. -/
def threshold? (l : List Char) : Except DirectiveError Threshold :=
  if l.isEmpty then .ok (some .trace)
  else match Threshold.ofText? (String.ofList l) with
    | some t => .ok t
    | none => .error .level

/-- A directive without an equals sign: a threshold, or else a target of which
everything is shown. -/
def bare (s : String) : Directive :=
  if s.isEmpty then { threshold := some .trace }
  else match Threshold.ofText? s with
    | some t => { threshold := t }
    | none => { threshold := some .trace, target := some s }

/-- Whether a field can be compared with the value: a number or a pattern. -/
def checkValue (l : List Char) : Except DirectiveError Unit :=
  match Pattern.check l with
  | .ok () => .ok ()
  | .error e => if (Number.float? (String.ofList l)).isSome then .ok () else .error (.value e)

/-- A condition on a field: its name, and perhaps a value up to the next equals
sign. -/
def fieldMatch (l : List Char) : Except DirectiveError FieldMatch := do
  let name := String.ofList (l.takeWhile (· != '='))
  match l.dropWhile (· != '=') with
  | [] => return ⟨name, false⟩
  | _ :: r =>
    checkValue (r.takeWhile (· != '='))
    return ⟨name, true⟩

/-- Whether a directive may start with the character. -/
def isStart (c : Char) : Bool := c == '-' || c == ':' || c == '_' || Text.isAlphanumeric c

/-- What follows the brackets of a directive, at a position in its text. -/
def afterBrackets (whole : List Char) (d : Directive) (position : Nat) :
    List Char → Except DirectiveError Directive
  | [] => .ok d
  | '=' :: _ => do return { d with threshold := ← threshold? (whole.drop (position + 1)) }
  | _ => .error .malformed

/-- The brackets of a directive after the opening one, at a position in its text. -/
def brackets (whole : List Char) (d : Directive) (position : Nat) (l : List Char) :
    Except DirectiveError Directive :=
  let n := (l.takeWhile fun c => c != ']' && c != '\x7b').length
  let name := (whole.drop position).take n
  match l.drop n with
  | ']' :: r =>
    afterBrackets whole { d with within := some (String.ofList name) } (position + n + 1) r
  | '\x7b' :: r =>
    let m := (r.takeWhile (· != '\x7d')).length
    let field := (whole.drop (position + n + 1)).take m
    let within := if name.isEmpty then none else some (String.ofList name)
    match r.drop m with
    | '\x7d' :: r => do
      if field.isEmpty then .error .malformed
      let f ← fieldMatch field
      match r with
      | ']' :: r =>
        afterBrackets whole { d with within, fields := [f] } (position + n + m + 3) r
      | _ => .error .malformed
    | _ => .error .malformed
  | _ => .error .malformed

/-- The directive that a text spells. White space around it does not count
when its parts are told apart, but it belongs to them. -/
def parse (s : String) : Except DirectiveError Directive :=
  let whole := s.toList
  match Text.trimList whole with
  | [] => .error .malformed
  | '[' :: l => brackets whole { threshold := some .trace } 1 l
  | c :: l =>
    if !isStart c then .error .malformed
    else
      let n := (l.takeWhile fun c => c != '=' && c != '[').length + 1
      let d : Directive :=
        { threshold := some .trace, target := some (String.ofList (whole.take n)) }
      match l.drop (n - 1) with
      | '=' :: _ => do return { d with threshold := ← threshold? (whole.drop (n + 1)) }
      | '[' :: r => brackets whole d (n + 1) r
      | _ => .ok (bare s)

/-! ## Effect -/

/-- Whether the directive says something about records outside any stretch of
work: it names none and asks for no value. -/
def isStatic (d : Directive) : Bool := d.within.isNone && d.fields.all fun f => !f.valued

/-- Whether the directive is about a record: its target starts the record's
and the record has the fields. -/
def concerns (d : Directive) (r : LogRecord) : Bool :=
  (match d.target with
    | none => true
    | some t => t.toList.isPrefixOf r.target.toList)
  && d.fields.all fun f => f.name == "message" || r.fields.any (·.1 == f.name)

/-- Whether the two directives are about the same records. -/
def sameScope (d e : Directive) : Bool :=
  d.target == e.target && d.fields.map (·.name) == e.fields.map (·.name)

/-- How specific the directive is: by the length of its target, then by the
number of its fields. -/
def specificity (d : Directive) : Nat × Nat :=
  ((d.target.map fun t => t.utf8ByteSize + 1).getD 0, d.fields.length)

/-- Whether the first directive comes before the second: it is more specific,
or as specific and comes later in the alphabet. -/
def precedes (d e : Directive) : Bool :=
  let (a, b) := (specificity d, specificity e)
  if a.1 ≠ b.1 then b.1 < a.1
  else if a.2 ≠ b.2 then b.2 < a.2
  else if d.target ≠ e.target then e.target.getD "" < d.target.getD ""
  else e.fields.map (·.name) < d.fields.map (·.name)

/-- Puts a directive into its place among others, in the stead of one with the
same scope. -/
def place (d : Directive) : List Directive → List Directive
  | [] => [d]
  | e :: l =>
    if sameScope d e then d :: l
    else if precedes d e then d :: e :: l
    else e :: place d l

end Directive

end AccessPolicy
