/-
JSON text of trees of data, on one line or indented.
-/
import AccessPolicy.Document.Tree
import AccessPolicy.Number.Shortest
import AccessPolicy.Text.Quoted

namespace AccessPolicy.Json

/-- A character inside a JSON text. -/
def escapedChar (c : Char) : List Char :=
  if c = '"' then ['\\', '"']
  else if c = '\\' then ['\\', '\\']
  else if c = '\x08' then ['\\', 'b']
  else if c = '\t' then ['\\', 't']
  else if c = '\n' then ['\\', 'n']
  else if c = '\x0c' then ['\\', 'f']
  else if c = '\r' then ['\\', 'r']
  else if c.toNat < 0x20 then
    let ds := Text.hexDigits c.toNat
    ['\\', 'u'] ++ List.replicate (4 - ds.length) '0' ++ ds
  else [c]

/-- The JSON text of a text. -/
def printText (s : String) : String := String.ofList ('"' :: s.toList.flatMap escapedChar ++ ['"'])

/-- How the parts of lists and objects are kept apart. -/
structure Layout where
  /-- What starts a line at a depth; nothing means that all stays on one line. -/
  indent : Option String
  /-- What stands between a key and its value. -/
  colon : String

/-- Everything on one line, without blanks. -/
def compact : Layout := ⟨none, ":"⟩

/-- One part a line, indented by two blanks for each level. -/
def pretty : Layout := ⟨some "  ", ": "⟩

/-- A new line at a depth. -/
def Layout.newline (l : Layout) (depth : Nat) : String :=
  match l.indent with
  | none => ""
  | some indent => "\n" ++ String.join (List.replicate depth indent)

/-- Parts between brackets, each on a line of its own if the layout wants it. -/
def bracketed (l : Layout) (depth : Nat) (opening closing : String) (parts : List String) :
    String :=
  if parts.isEmpty then opening ++ closing
  else opening ++ l.newline (depth + 1) ++ ("," ++ l.newline (depth + 1)).intercalate parts
    ++ l.newline depth ++ closing

mutual
/-- The JSON text of a tree at a depth. -/
def print (l : Layout) (depth : Nat) : Tree → String
  | .null => "null"
  | .bool b => if b then "true" else "false"
  | .integer i => toString i
  | .float x => x.toScientificText
  | .text s => printText s
  | .list items => bracketed l depth "[" "]" (printItems l (depth + 1) items)
  | .table entries => bracketed l depth "\x7b" "\x7d" (printEntries l (depth + 1) entries)

/-- The JSON texts of the elements of a list. -/
def printItems (l : Layout) (depth : Nat) : List Tree → List String
  | [] => []
  | x :: xs => print l depth x :: printItems l depth xs

/-- The JSON texts of the entries of an object. -/
def printEntries (l : Layout) (depth : Nat) : List (String × Tree) → List String
  | [] => []
  | (key, x) :: es => (printText key ++ l.colon ++ print l depth x) :: printEntries l depth es
end

end AccessPolicy.Json
