/-
What can be wrong with a document: the text itself, or the data in it.
-/
import AccessPolicy.Number.Shortest
import AccessPolicy.Text.Quoted

namespace AccessPolicy

/-- What stands where something else is wanted. -/
inductive Found where
  | null
  | bool (b : Bool)
  | integer (i : Int)
  | float (x : Binary64)
  | text (s : String)
  | list
  | table
deriving DecidableEq

/-- What is wanted. -/
inductive Wanted where
  | text
  | bool
  | list
  | table
  /-- A record of a named kind. -/
  | record (name : String)
  /-- A list of two. -/
  | pair
deriving DecidableEq

/-- The number of elements that a list should have. -/
inductive Extent where
  /-- One for each field of a record. -/
  | record (name : String) (fields : Nat)
  | pair
  /-- Fewer than there are. -/
  | fewer
deriving DecidableEq

/-- Something wrong with the data of a document. -/
inductive Problem where
  | type (found : Found) (wanted : Wanted)
  | length (present : Nat) (wanted : Extent)
  | missing (field : String)
  | duplicate (field : String)
deriving DecidableEq

/-- Why a document cannot be read. -/
inductive ReadError where
  /-- The text breaks the rules of its notation. -/
  | malformed
  /-- The text ends too early. -/
  | incomplete
  /-- The text is in order, the data is not. -/
  | data (problem : Problem)
deriving DecidableEq

namespace Found

/-- What stands there, in words. -/
def describe : Found → String
  | null => "null"
  | bool b => "boolean `" ++ (if b then "true" else "false") ++ "`"
  | integer i => "integer `" ++ toString i ++ "`"
  | float x => "floating point `" ++ x.toScientificText ++ "`"
  | text s => "string " ++ Text.quote s
  | list => "sequence"
  | table => "map"

end Found

/-- What is wanted, in words. -/
def Wanted.describe : Wanted → String
  | text => "a string"
  | bool => "a boolean"
  | list => "a sequence"
  | table => "a map"
  | record name => "struct " ++ name
  | pair => "a tuple of size 2"

/-- The wanted number of elements, in words. -/
def Extent.describe : Extent → String
  | record name fields => "struct " ++ name ++ " with " ++ toString fields ++ " elements"
  | pair => "a tuple of size 2"
  | fewer => "fewer elements in array"

/-- The problem, in words. -/
def Problem.message : Problem → String
  | type found wanted => "invalid type: " ++ found.describe ++ ", expected " ++ wanted.describe
  | length present wanted =>
    "invalid length " ++ toString present ++ ", expected " ++ wanted.describe
  | missing field => "missing field `" ++ field ++ "`"
  | duplicate field => "duplicate field `" ++ field ++ "`"

end AccessPolicy
