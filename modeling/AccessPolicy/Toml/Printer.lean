/-
TOML text of trees of data: the plain entries of a table under its header, its
inner tables after them under headers of their own.
-/
import AccessPolicy.Document.Tree
import AccessPolicy.Number.Shortest
import AccessPolicy.Text.Quoted
import AccessPolicy.Toml.Reader

namespace AccessPolicy.Toml

/-! ## Texts -/

/-- The ways to quote a text: with or without escapes, on one line or over
several. -/
inductive Quoting where
  | basic
  | literal
  | basicLines
  | literalLines
deriving DecidableEq

/-- Whether a character can only be written with an escape. -/
def needsCode (c : Char) : Bool :=
  (c.toNat < 0x20 && c != '\t' && c != '\n') || c.toNat == 0x7f

/-- The length of the longest run of a character, after a run of so many. -/
def longestRunFrom (q : Char) : Nat → List Char → Nat
  | n, [] => n
  | n, c :: r => if c = q then longestRunFrom q (n + 1) r else max n (longestRunFrom q 0 r)

/-- The length of the longest run of a character. -/
def longestRun (q : Char) (l : List Char) : Nat := longestRunFrom q 0 l

/-- The plainest way to quote a text. -/
def quoting (l : List Char) : Quoting :=
  let coded := l.any needsCode
  let escaped := l.contains '\\'
  let lines := l.contains '\n'
  let double := longestRun '"' l
  let single := longestRun '\'' l
  if !coded && !escaped && !lines && double = 0 then .basic
  else if !coded && !lines && single = 0 then .literal
  else if !coded && !escaped && double ≤ 2 then .basicLines
  else if !coded && single ≤ 2 then .literalLines
  else if lines then .basicLines
  else .basic

/-- The plainest way to quote a key, which stays on one line. -/
def keyQuoting (l : List Char) : Quoting :=
  let coded := l.any fun c => needsCode c || c == '\n'
  if !coded && !l.contains '\\' && !l.contains '"' then .basic
  else if !coded && !l.contains '\'' then .literal
  else .basic

/-- A code point in four hexadecimal digits. -/
def fourDigits (c : Char) : List Char :=
  let ds := (Text.hexDigits c.toNat).map Char.toUpper
  List.replicate (4 - ds.length) '0' ++ ds

/-- A character other than a quote inside a text with escapes. -/
def escapedChar (lines : Bool) (c : Char) : List Char :=
  if c = '\x08' then ['\\', 'b']
  else if c = '\t' then ['\\', 't']
  else if c = '\n' then if lines then ['\n'] else ['\\', 'n']
  else if c = '\x0c' then ['\\', 'f']
  else if c = '\r' then ['\\', 'r']
  else if c = '\\' then ['\\', '\\']
  else if needsCode c then '\\' :: 'u' :: fourDigits c
  else [c]

/-- The inside of a text with escapes, in which up to so many quotes may stand
in a row, after so many of them. -/
def escapedFrom (lines : Bool) (most : Nat) : Nat → List Char → List Char
  | _, [] => []
  | run, c :: r =>
    if c = '"' then
      if run < most then '"' :: escapedFrom lines most (run + 1) r
      else '\\' :: '"' :: escapedFrom lines most 0 r
    else escapedChar lines c ++ escapedFrom lines most 0 r

/-- A text between quotes of the given kind. A text of several lines starts on
a line of its own. -/
def quotedBy (q : Quoting) (l : List Char) : List Char :=
  let start := if l.contains '\n' then ['\n'] else []
  match q with
  | .basic => ['"'] ++ escapedFrom false 0 0 l ++ ['"']
  | .literal => ['\''] ++ l ++ ['\'']
  | .basicLines => ['"', '"', '"'] ++ start ++ escapedFrom true 2 0 l ++ ['"', '"', '"']
  | .literalLines => ['\'', '\'', '\''] ++ start ++ l ++ ['\'', '\'', '\'']

/-- A text as a value. -/
def printText (s : String) : String := String.ofList (quotedBy (quoting s.toList) s.toList)

/-- A key, quoted only if it has to be. -/
def printKey (s : String) : String :=
  let l := s.toList
  if !l.isEmpty && l.all isKeyChar then s else String.ofList (quotedBy (keyQuoting l) l)

/-! ## Values -/

mutual
/-- A value on one line. -/
def printValue : Tree → String
  | .null => ""
  | .bool b => if b then "true" else "false"
  | .integer i => toString i
  | .float x => x.toScientificText
  | .text s => printText s
  | .list items => "[" ++ ", ".intercalate (printItems items) ++ "]"
  | .table [] => "\x7b\x7d"
  | .table entries => "\x7b " ++ ", ".intercalate (printEntries entries) ++ " \x7d"

/-- The elements of a list. -/
def printItems : List Tree → List String
  | [] => []
  | x :: xs => printValue x :: printItems xs

/-- The entries of a table in braces. -/
def printEntries : List (String × Tree) → List String
  | [] => []
  | (key, x) :: es => (printKey key ++ " = " ++ printValue x) :: printEntries es
end

/-- The value of an entry. A list of several elements has one on each line. -/
def printEntryValue : Tree → String
  | .list (x :: y :: r) =>
    "[\n" ++ String.join ((printItems (x :: y :: r)).map fun s => "    " ++ s ++ ",\n") ++ "]"
  | x => printValue x

/-! ## Tables -/

/-- Whether the value is a table. -/
def isTable : Tree → Bool
  | .table _ => true
  | _ => false

/-- Whether the value gets a header, or several. -/
def hasHeader : Tree → Bool
  | .table _ => true
  | .list (x :: xs) => (x :: xs).all isTable
  | _ => false

/-- The entries of a table that stand under its own header. -/
def printBody (entries : List (String × Tree)) : String :=
  String.join ((entries.filter fun e => !hasHeader e.2).map fun e =>
    printKey e.1 ++ " = " ++ printEntryValue e.2 ++ "\n")

/-- The header of the table at a path, or of an element of the list there. -/
def header (element : Bool) (path : List String) : String :=
  let keys := ".".intercalate (path.map printKey)
  if element then "[[" ++ keys ++ "]]\n" else "[" ++ keys ++ "]\n"

/-- The part of a document that belongs to a table itself. A table that has
nothing but inner tables needs none. -/
def ownPart (element : Bool) (path : List String) (entries : List (String × Tree)) : List String :=
  let body := printBody entries
  let inner := entries.any fun e => hasHeader e.2
  if path.isEmpty then if body.isEmpty then [] else [body]
  else if element || !body.isEmpty || !inner then [header element path ++ body]
  else []

mutual
/-- The parts of a document for the value at a path. -/
def parts (element : Bool) (path : List String) : Tree → List String
  | .table entries => ownPart element path entries ++ innerParts path entries
  | .list items => if items.all isTable then elementParts path items else []
  | _ => []

/-- The parts of a document for the inner tables of the table at a path. -/
def innerParts (path : List String) : List (String × Tree) → List String
  | [] => []
  | (key, x) :: es => parts false (path ++ [key]) x ++ innerParts path es

/-- The parts of a document for the elements of the list at a path. -/
def elementParts (path : List String) : List Tree → List String
  | [] => []
  | x :: xs => parts true path x ++ elementParts path xs
end

/-- The document of a table. -/
def print (t : Tree) : String := "\n".intercalate (parts false [] t)

end AccessPolicy.Toml
