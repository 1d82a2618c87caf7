/-
Environment variables as settings: which variables count, the paths that they
set, and the values that they give.

A variable sets either a list, which is written with commas, or a single
value. The last name of its path decides which. Lists are put in one by one, and
single values are collected from the variables that are left; each of the two
ways finds the key of a variable for itself, and takes the variables as they come.
-/
import AccessPolicy.Layers.Layer
import AccessPolicy.Text.LowerCase
import AccessPolicy.Text.Space

namespace AccessPolicy.Variables

/-- An environment variable: its name and its value. -/
abbrev Variable := String × String

/-! ## Names -/

/-- The fields whose values are lists of names. -/
def listFields : List String :=
  ["locked", "allow_roles", "allow_users", "deny_roles", "deny_users", "values"]

/-- The rest of a list after a beginning. -/
def after? : List Char → List Char → Option (List Char)
  | [], l => some l
  | _ :: _, [] => none
  | c :: cs, d :: l => if c = d then after? cs l else none

/-- The text with a point for every pair of underscores, from left to right. -/
def dotted : List Char → List Char
  | '_' :: '_' :: r => '.' :: dotted r
  | c :: r => c :: dotted r
  | [] => []

/-- What a variable is to set: its name in lower case without the marker that
starts it, with points for double underscores. Other variables set nothing. -/
def key? (marker name : String) : Option String :=
  (after? ((Text.lowerCase marker).toList ++ ['_']) (Text.lowerCase name).toList).map
    fun rest => String.ofList (dotted rest)

/-- The part of a key after its last point. -/
def lastName (key : String) : String := ((Text.splitAt '.' key).getLast?).getD ""

/-- Whether a key ends in a field whose value is a list. -/
def isListKey (key : String) : Bool := listFields.contains (lastName key)

/-- The key of a variable that sets a list. -/
def listKey? (marker name : String) : Option String := (key? marker name).filter isListKey

/-- The key under which the value of a variable is collected. Here the marker goes
to lower case together with the underscore after it. -/
def collectedKey? (marker name : String) : Option String :=
  let opening := (Text.lowerCase (marker ++ "_")).toList
  let lower := (Text.lowerCase name).toList
  if opening.isPrefixOf lower then some (String.ofList (dotted (lower.drop opening.length))) else none

/-! ## Values -/

/-- The names in a list that is written with commas. -/
def names (value : String) : List String :=
  ((Text.splitAt ',' value).map Text.trim).filter fun s => !s.isEmpty

/-- A single value: a truth value or a number, if it reads as one. -/
def scalar (value : String) : Tree :=
  if Text.lowerCase value = "true" then .bool true
  else if Text.lowerCase value = "false" then .bool false
  else match Number.int64? value with
    | some i => .integer i
    | none =>
      match Number.float? value with
      | some x => .float x
      | none => .text value

/-! ## Settings -/

/-- The single values of the variables that set no list, by key. Of several
variables of one name the last counts; of several names for one key, that which
comes last. -/
def scalars (order : List String) (marker : String) (environment : List Variable) : NameMap Tree :=
  let others := environment.filter fun v => (listKey? marker v.1).isNone
  .ofList ((arrange (·.1) order (NameMap.ofList others).toList).filterMap fun v =>
    (collectedKey? marker v.1).map fun key => (key, scalar v.2))

/-- The lists that the variables set, each under its key. The name of a variable
whose key is no path is an error. -/
def overrides (marker : String) : List Variable → Except String Layer
  | [] => .ok []
  | v :: vs =>
    match listKey? marker v.1 with
    | none => overrides marker vs
    | some key =>
      if (KeyPath.parse? key).isNone then .error v.1
      else do return (key, .texts (names v.2)) :: (← overrides marker vs)

/-- The lists as they come: of several for one path the last. -/
def inOrder (order : List KeyPath) (overrides : Layer) : Layer :=
  arrange Layer.pathOf order (lastOfEach Layer.pathOf overrides)

/-- The lists in a tree. -/
def lists (order : List KeyPath) (overrides : Layer) : Tree :=
  Layer.mergeOver (.table []) (inOrder order overrides)

end AccessPolicy.Variables
