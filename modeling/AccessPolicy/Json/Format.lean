/-
JSON as a notation for data: the drafts of JSON texts, which may break off,
and JSON values, which are complete.
-/
import AccessPolicy.Document.Format
import AccessPolicy.Document.Tree
import AccessPolicy.Document.Decode
import AccessPolicy.Json.Draft

namespace AccessPolicy.Json

/-! ## Texts -/

namespace Draft

/-- The error of finding the draft where something else is wanted. -/
def mismatch (wanted : Wanted) : Draft → ReadError
  | null => .data (.type .null wanted)
  | bool b => .data (.type (.bool b) wanted)
  | number (.ok (.integer i)) => .data (.type (.integer i) wanted)
  | number (.ok (.float x)) => .data (.type (.float x) wanted)
  | number (.error e) => e
  | text (.ok s) => .data (.type (.text s) wanted)
  | text (.error e) => e
  | broken e _ => e
  | list _ _ => .data (.type .list wanted)
  | object _ _ => .data (.type .table wanted)

end Draft

/-- JSON text as a notation. -/
def textFormat : Format Draft where
  isNull
    | .null => true
    | _ => false
  text
    | .text value => value
    | d => .error (d.mismatch .text)
  bool
    | .bool b => .ok b
    | d => .error (d.mismatch .bool)
  list
    | .list items ending => .ok ⟨items, ending⟩
    | d => .error (d.mismatch .list)
  table
    | .object entries ending => .ok ⟨entries, ending⟩
    | d => .error (d.mismatch .table)
  record name
    | .list items ending => .ok (.inl ⟨items, ending⟩)
    | .object entries ending => .ok (.inr ⟨entries, ending⟩)
    | d => .error (d.mismatch (.record name))
  pass
    | .broken _ e => .error e
    | .list _ ending => ending
    | .object _ ending => ending
    | _ => .ok ()
  beyond _ items := if items.list.isEmpty then items.ending else .error .malformed

/-- Reads a JSON text with nothing but white space after the value. -/
def ofText {α : Type} (read : Draft → Except ReadError α) (s : String) : Except ReadError α := do
  let (d, rest) := Draft.ofText s
  let value ← read d
  match rest with
  | none => throw .incomplete
  | some rest => if (skipBlanks rest).isEmpty then return value else throw .malformed

/-! ## Values -/

mutual
/-- The value of a complete draft. Of the entries of an object under one key
the last counts, and they are ordered by their keys. -/
def Draft.toTree? : Draft → Option Tree
  | .null => some .null
  | .bool b => some (.bool b)
  | .number (.ok (.integer i)) => some (.integer i)
  | .number (.ok (.float x)) => some (.float x)
  | .number (.error _) => none
  | .text (.ok s) => some (.text s)
  | .text (.error _) => none
  | .broken _ _ => none
  | .list items ending => do
    let items ← itemsToTrees? items
    if ending.isOk then some (.list items) else none
  | .object entries ending => do
    let entries ← entriesToTrees? entries
    if ending.isOk then some (.table (NameMap.ofList entries).toList) else none

/-- The values of complete drafts. -/
def itemsToTrees? : List Draft → Option (List Tree)
  | [] => some []
  | d :: ds => do return (← d.toTree?) :: (← itemsToTrees? ds)

/-- The values of complete drafts under readable keys. -/
def entriesToTrees? : List (Except ReadError String × Draft) → Option (List (String × Tree))
  | [] => some []
  | (.ok key, d) :: es => do return (key, ← d.toTree?) :: (← entriesToTrees? es)
  | (.error _, _) :: _ => none
end

/-- The value that a JSON text denotes. -/
def value? (s : String) : Option Tree :=
  match Draft.ofText s with
  | (d, some rest) => if (skipBlanks rest).isEmpty then d.toTree? else none
  | (_, none) => none

/-- What stands there, as problems name it. -/
def foundTree : Tree → Found
  | .null => .null
  | .bool b => .bool b
  | .integer i => .integer i
  | .float x => .float x
  | .text s => .text s
  | .list _ => .list
  | .table _ => .table

/-- The error of finding the value where something else is wanted. -/
def mismatchTree (wanted : Wanted) (x : Tree) : ReadError := .data (.type (foundTree x) wanted)

/-- The entries of a table. -/
def treeEntries (entries : List (String × Tree)) : Entries Tree :=
  { list := entries.map fun e => (.ok e.1, e.2) }

/-- JSON values as a notation. -/
def valueFormat : Format Tree where
  isNull
    | .null => true
    | _ => false
  text
    | .text s => .ok s
    | x => .error (mismatchTree .text x)
  bool
    | .bool b => .ok b
    | x => .error (mismatchTree .bool x)
  list
    | .list items => .ok { list := items }
    | x => .error (mismatchTree .list x)
  table
    | .table entries => .ok (treeEntries entries)
    | x => .error (mismatchTree .table x)
  record name
    | .list items => .ok (.inl { list := items })
    | .table entries => .ok (.inr (treeEntries entries))
    | x => .error (mismatchTree (.record name) x)
  pass _ := .ok ()
  beyond total items :=
    if items.list.isEmpty then .ok () else .error (.data (.length total .fewer))

/-- Reads an entry of a registry: a list of a name and a rule or `null`. -/
def readEntry (x : Tree) : Except ReadError (String × Option Rule) :=
  match x with
  | .list (name :: rule :: rest) => do
    let name ← valueFormat.text name
    let rule ← valueFormat.readOption valueFormat.readRule rule
    valueFormat.beyond (rest.length + 2) { list := rest }
    return (name, rule)
  | .list [name] => do
    let _ ← valueFormat.text name
    throw (.data (.length 1 .pair))
  | .list [] => throw (.data (.length 0 .pair))
  | x => throw (mismatchTree .pair x)

end AccessPolicy.Json
