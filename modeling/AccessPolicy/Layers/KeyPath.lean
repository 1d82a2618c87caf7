/-
Paths into trees of data, such as `policies.ops.allow_claims[0].type`, and the
merging of a value into a tree at a path.

`merge_scalar` and `merge_table` say what merging is: a table is merged key by
key, anything else takes the place of what was there.
-/
import AccessPolicy.Document.Tree
import AccessPolicy.Names.Map
import AccessPolicy.Number.Reading

namespace AccessPolicy

/-! ## Merging -/

namespace Tree

/-- The entries of a table; other values have none. -/
def entries : Tree → List (String × Tree)
  | .table es => es
  | _ => []

/-- The elements of a list; other values have none. -/
def items : Tree → List Tree
  | .list xs => xs
  | _ => []

mutual
/-- A tree with another merged over it. -/
def merge (old : Tree) : Tree → Tree
  | .table es => .table (mergeEntries old.entries es)
  | t => t

/-- The entries of a table with those of another merged over them. -/
def mergeEntries (old : List (String × Tree)) : List (String × Tree) → List (String × Tree)
  | [] => old
  | (key, t) :: es =>
    mergeEntries (NameMap.place key (merge ((NameMap.find key old).getD .null) t) old) es
end

/-- A tree that is no table takes the place of what was there. -/
theorem merge_scalar {old t : Tree} (h : ∀ es, t ≠ .table es) : merge old t = t := by
  cases t <;> simp_all [merge]

/-- A table is merged entry by entry into the entries that are there. -/
theorem merge_table (old : Tree) (es : List (String × Tree)) :
    merge old (.table es) = .table (mergeEntries old.entries es) := by
  simp [merge]

end Tree

/-! ## Paths -/

/-- A step from a value to a part of it. -/
inductive PathStep where
  | key (name : String)
  /-- A negative index counts from the end. -/
  | index (i : Int)
deriving DecidableEq

/-- A path into a tree: a key of the outermost table, and the steps from there. -/
structure KeyPath where
  root : String
  steps : List PathStep
deriving DecidableEq

namespace KeyPath

/-- Whether the character may stand in a key of a path. -/
def isKeyChar (c : Char) : Bool := c.isAlphanum || c == '_' || c == '-'

/-- Whether the character is a blank, as may stand around an index. -/
def isBlank (c : Char) : Bool := c == ' ' || c == '\t'

/-- An index up to its closing bracket, and the rest. -/
def index? (l : List Char) : Option (Int × List Char) := do
  let l := l.dropWhile isBlank
  let (negative, l) := match l with
    | '-' :: r => (true, r)
    | r => (false, r)
  let digits := l.takeWhile Char.isDigit
  if digits.isEmpty then none
  let n := Number.natOfDigits digits
  let i := if negative then -(n : Int) else n
  if !Number.fitsInt64 i then none
  match (l.dropWhile Char.isDigit).dropWhile isBlank with
  | ']' :: r => some (i, r)
  | _ => none

/-- A key, and the rest. -/
def key? (l : List Char) : Option (String × List Char) :=
  let key := l.takeWhile isKeyChar
  if key.isEmpty then none else some (String.ofList key, l.dropWhile isKeyChar)

/-- The steps that a text spells, each with a point or brackets. -/
def stepsFrom : Nat → List Char → Option (List PathStep)
  | _, [] => some []
  | 0, _ => none
  | fuel + 1, '.' :: l => do
    let (name, l) ← key? l
    return .key name :: (← stepsFrom fuel l)
  | fuel + 1, '[' :: l => do
    let (i, l) ← index? l
    return .index i :: (← stepsFrom fuel l)
  | _, _ => none

/-- The path that a text spells. -/
def parse? (s : String) : Option KeyPath := do
  let (root, l) ← key? s.toList
  return ⟨root, ← stepsFrom l.length l⟩

/-- The path that a text spells, or else the text itself as a key. -/
def ofText (s : String) : KeyPath := (parse? s).getD ⟨s, []⟩

/-! ## Room for lists -/

/-- Whether a list that is as long as the step asks for has room. A list that is
too short for an index gets longer: at its end, or at its front for an index
from the end. -/
def fitsStep (room : Nat) : PathStep → Bool
  | .key _ => true
  | .index i => if i < 0 then (-i).toNat ≤ room else i.toNat < room

/-- Whether there is room for all lists that the path asks for. -/
def fits (room : Nat) (p : KeyPath) : Bool := p.steps.all (fitsStep room)

/-! ## Changes at a path -/

/-- The list with its element at an index changed. Elements that are missing
before it are made, for which there has to be room (`fits`). -/
def changeAt (change : Tree → Tree) (i : Int) (l : List Tree) : List Tree :=
  let missing := (-(l.length + i)).toNat
  let l := if i < 0 then List.replicate missing Tree.null ++ l else l
  let n := if i < 0 then (l.length + i).toNat else i.toNat
  let l := l ++ List.replicate (n + 1 - l.length) Tree.null
  l.modify n change

/-- The value with the part that some steps lead to changed. Whatever stands
in the way of the steps makes place for tables and lists. -/
def change (f : Tree → Tree) : List PathStep → Tree → Tree
  | [], t => f t
  | .key name :: steps, t =>
    let part := (NameMap.find name t.entries).getD .null
    .table (NameMap.place name (change f steps part) t.entries)
  | .index i :: steps, t => .list (changeAt (change f steps) i t.items)

/-- The tree with a value merged in at the path. -/
def set (p : KeyPath) (value : Tree) (t : Tree) : Tree :=
  change (fun old => old.merge value) (.key p.root :: p.steps) t

end KeyPath

end AccessPolicy
