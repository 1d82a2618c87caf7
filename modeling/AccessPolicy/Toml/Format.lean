/-
TOML as a notation for data: a text is a text and nothing else, and a record
may be written as a list of its values, with more of them than it has fields.
-/
import AccessPolicy.Document.Decode
import AccessPolicy.Json.Format
import AccessPolicy.Toml.Reader

namespace AccessPolicy.Toml

/-- The key under which a date or time stands in a tree of data. -/
def datetimeKey : String := "$__toml_private_datetime"

/-- The TOML of data that is read by the types of its fields. A date or time is
a table of one entry. -/
def Dialect.typed : Dialect where
  reach := .dotted
  date d := .table [(datetimeKey, .text d.text)]

/-- TOML as a notation. -/
def format : Format Tree := { Json.valueFormat with
  isNull := fun _ => false
  beyond := fun _ _ => .ok () }

/-- Reads settings from a document. -/
def readSettings? (s : String) : Option Settings := do
  let t ← ofText? .typed s
  match format.readSettings t with
  | .ok settings => some settings
  | .error _ => none

end AccessPolicy.Toml
