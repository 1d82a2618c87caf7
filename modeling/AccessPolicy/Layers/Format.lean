/-
The lenient notation of merged settings: numbers and truth values do as texts,
numbers and some words do as truth values.
-/
import AccessPolicy.Json.Format
import AccessPolicy.Text.LowerCase

namespace AccessPolicy.Layers

/-- The text that a value does for. -/
def textOf : Tree → Except ReadError String
  | .text s => .ok s
  | .bool b => .ok (if b then "true" else "false")
  | .integer i => .ok (toString i)
  | .float x => .ok x.toText
  | t => .error (Json.mismatchTree .text t)

/-- The words for truth. -/
def trueWords : List String := ["1", "true", "on", "yes"]

/-- The words for falsehood. -/
def falseWords : List String := ["0", "false", "off", "no"]

/-- The truth value that a value does for. -/
def boolOf : Tree → Except ReadError Bool
  | .bool b => .ok b
  | .integer i => .ok (i != 0)
  | .float x => .ok !x.isZero
  | .text s =>
    let word := Text.lowerCase s
    if trueWords.contains word then .ok true
    else if falseWords.contains word then .ok false
    else .error (Json.mismatchTree .bool (.text s))
  | t => .error (Json.mismatchTree .bool t)

/-- Merged settings as a notation. Elements beyond the last field of a record
do no harm. -/
def format : Format Tree := { Json.valueFormat with
  text := textOf
  bool := boolOf
  beyond := fun _ _ => .ok () }

end AccessPolicy.Layers
