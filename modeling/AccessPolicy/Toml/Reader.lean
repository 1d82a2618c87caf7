/-
The reading of TOML documents.

Reading only tells documents from texts that are none; what is wrong with the
latter is not recorded.
-/
import AccessPolicy.Toml.Quoted
import AccessPolicy.Toml.Sections

namespace AccessPolicy.Toml

/-! ## Blanks, comments and keys -/

/-- Passes over blanks within a line. -/
def skipBlanks (l : List Char) : List Char := l.dropWhile isBlank

/-- The rest of a line after a comment sign, up to its end. -/
def comment? : List Char → Option (List Char)
  | [] => some []
  | c :: r =>
    match lineEnd? (c :: r) with
    | some _ => some (c :: r)
    | none => if isPlain c then comment? r else none

/-- Passes over blanks and a comment to the end of a line or of the document. -/
def endLine? (l : List Char) : Option (List Char) := do
  let l ← match skipBlanks l with
    | '#' :: r => comment? r
    | r => some r
  match l with
  | [] => some []
  | l => lineEnd? l

/-- Passes over so many blanks, line ends and comments. -/
def fillerFrom : Nat → List Char → Option (List Char)
  | 0, _ => none
  | fuel + 1, l =>
    match skipBlanks l with
    | '#' :: r => do fillerFrom fuel (← comment? r)
    | r =>
      match lineEnd? r with
      | some r => fillerFrom fuel r
      | none => some r

/-- Passes over blanks, line ends and comments. -/
def skipFiller (l : List Char) : Option (List Char) := fillerFrom (l.length + 1) l

/-- Whether the character may stand in a key without quotes. -/
def isKeyChar (c : Char) : Bool := c.isAlphanum || c == '_' || c == '-'

/-- One part of a key. -/
def keyPart? (l : List Char) : Option (String × List Char) :=
  match l with
  | [] => none
  | c :: _ =>
    if c = '"' ∨ c = '\'' then quotedLine? l
    else
      let part := l.takeWhile isKeyChar
      if part.isEmpty then none else some (String.ofList part, l.dropWhile isKeyChar)

/-- How deep keys lead, and how deep lists and tables in braces may be nested. -/
def maxDepth : Nat := 80

/-- At most so many parts of a dotted key after those so far, last first: all
but the last, and the last. -/
def keyFrom : Nat → List String → List Char → Option (List String × String × List Char)
  | 0, _, _ => none
  | parts + 1, before, l => do
    let (part, l) ← keyPart? (skipBlanks l)
    match skipBlanks l with
    | '.' :: r => keyFrom parts (part :: before) r
    | r => some (before.reverse, part, r)

/-- The parts of a dotted key: all but the last, and the last. -/
def key? (l : List Char) : Option (List String × String × List Char) := keyFrom maxDepth [] l

/-- The first part of a key and the others, given all but the last and the last. -/
def splitKey (before : List String) (last : String) : String × List String :=
  match before with
  | [] => (last, [])
  | k :: ks => (k, ks ++ [last])

/-! ## Values -/

/-- What uses of TOML differ in. -/
structure Dialect where
  /-- To which tables dotted keys may add. -/
  reach : KeyReach
  /-- What dates and times become. -/
  date : Datetime → Tree

/-- Whether the character may stand in an unquoted value. -/
def isScalarChar (c : Char) : Bool :=
  c.isAlphanum || c == '_' || c == '-' || c == '+' || c == '.' || c == ':'

/-- Whether a text starts like a time of day. -/
def startsTime (l : List Char) : Bool :=
  match l with
  | a :: b :: ':' :: _ => a.isDigit && b.isDigit
  | _ => false

/-- The text of an unquoted value. A blank may stand between a date and a time. -/
def scalarSpan (l : List Char) : List Char × List Char :=
  let word := l.takeWhile isScalarChar
  let rest := l.dropWhile isScalarChar
  match rest with
  | ' ' :: r =>
    if startsTime r && (Datetime.date? word).any (·.2.isEmpty) then
      (word ++ ' ' :: r.takeWhile isScalarChar, r.dropWhile isScalarChar)
    else (word, rest)
  | rest => (word, rest)

mutual
/-- A value, within so many levels of nesting. -/
def value? (d : Dialect) : Nat → Nat → List Char → Option (Tree × List Char)
  | 0, _, _ => none
  | fuel + 1, levels, l =>
    match l with
    | [] => none
    | '[' :: r =>
      match levels with
      | 0 => none
      | levels + 1 => do
        let (items, r) ← items? d fuel levels [] r
        return (.list items, r)
    | '\x7b' :: r =>
      match levels with
      | 0 => none
      | levels + 1 => do
        let (s, r) ← braces? d fuel levels [] r
        return (s.toTree, r)
    | c :: r =>
      if c = '"' ∨ c = '\'' then (quoted? (c :: r)).map fun (s, r) => (.text s, r)
      else
        let (word, r) := scalarSpan (c :: r)
        (scalar? d.date word).map fun t => (t, r)

/-- The elements of a list up to its closing bracket, after those so far, last first. -/
def items? (d : Dialect) :
    Nat → Nat → List Tree → List Char → Option (List Tree × List Char)
  | 0, _, _, _ => none
  | fuel + 1, levels, done, l => do
    match ← skipFiller l with
    | ']' :: r => some (done.reverse, r)
    | l => do
      let (t, l) ← value? d fuel levels l
      match ← skipFiller l with
      | ']' :: r => some ((t :: done).reverse, r)
      | ',' :: r => items? d fuel levels (t :: done) r
      | _ => none

/-- The entries of a table in braces up to its closing brace. An entry may run
over several lines. -/
def braces? (d : Dialect) :
    Nat → Nat → Section → List Char → Option (Section × List Char)
  | 0, _, _, _ => none
  | fuel + 1, levels, s, l => do
    match ← skipFiller l with
    | '\x7d' :: r => some (s, r)
    | l => do
      let (before, last, l) ← key? l
      match ← skipFiller l with
      | '=' :: l => do
        let (t, l) ← value? d fuel levels (← skipFiller l)
        let (k, ks) := splitKey before last
        let s ← Section.assign d.reach t k ks s
        match ← skipFiller l with
        | '\x7d' :: r => some (s, r)
        | ',' :: r => braces? d fuel levels s r
        | _ => none
      | _ => none
end

/-! ## Documents -/

/-- The lines of a document, under the header of the table that they add to. -/
def lines? (d : Dialect) : Nat → List String → Section → List Char → Option Section
  | 0, _, _, _ => none
  | fuel + 1, header, s, l => do
    match ← skipFiller l with
    | [] => some s
    | '[' :: '[' :: r => do
      let (before, last, r) ← key? r
      match r with
      | ']' :: ']' :: r => do
        let r ← endLine? r
        let s ← Section.descend (Section.openElement last) before s
        lines? d fuel (before ++ [last]) s r
      | _ => none
    | '[' :: r => do
      let (before, last, r) ← key? r
      match r with
      | ']' :: r => do
        let r ← endLine? r
        let s ← Section.descend (Section.openTable last) before s
        lines? d fuel (before ++ [last]) s r
      | _ => none
    | l => do
      let (before, last, l) ← key? l
      match l with
      | '=' :: l => do
        let l := skipBlanks l
        let (t, l) ← value? d (2 * l.length + 2) maxDepth l
        let l ← endLine? l
        let (k, ks) := splitKey before last
        let s ← Section.descend (Section.assign d.reach t k ks) header s
        lines? d fuel header s l
      | _ => none

/-- The tree of a document. A mark of the byte order at its start is no part of it. -/
def ofText? (d : Dialect) (s : String) : Option Tree :=
  let l := match s.toList with
    | '\ufeff' :: r => r
    | l => l
  (lines? d (l.length + 1) [] [] l).map Section.toTree

end AccessPolicy.Toml
