/-
The quoted texts of TOML: basic texts with escapes and literal texts without,
each on one line or over several.
-/
import AccessPolicy.Toml.Scalar

namespace AccessPolicy.Toml

/-- Whether the character may stand in a comment or a text. -/
def isPlain (c : Char) : Bool := c == '\t' || (0x20 ≤ c.toNat && c.toNat != 0x7f)

/-- Whether the character is a blank within a line. -/
def isBlank (c : Char) : Bool := c == ' ' || c == '\t'

/-- The rest of a text after a line end, which is a line feed with or without
a carriage return before it. -/
def lineEnd? : List Char → Option (List Char)
  | '\n' :: r => some r
  | '\r' :: '\n' :: r => some r
  | _ => none

/-- The value of a number of hexadecimal digits. -/
def hexValue? (ds : List Char) : Option Nat :=
  ds.foldlM (fun n c => (Number.digitValue? 16 c).map (16 * n + ·)) 0

/-- The character that so many hexadecimal digits name. -/
def codePoint? (count : Nat) (l : List Char) : Option (Char × List Char) := do
  let ds := l.take count
  if ds.length ≠ count then none
  let n ← hexValue? ds
  if n.isValidChar then some (Char.ofNat n, l.drop count) else none

/-- The character that an escape stands for, after the backslash. -/
def escaped? : List Char → Option (Char × List Char)
  | 'b' :: r => some ('\x08', r)
  | 't' :: r => some ('\t', r)
  | 'n' :: r => some ('\n', r)
  | 'f' :: r => some ('\x0c', r)
  | 'r' :: r => some ('\r', r)
  | 'e' :: r => some ('\x1b', r)
  | '"' :: r => some ('"', r)
  | '\\' :: r => some ('\\', r)
  | 'x' :: r => codePoint? 2 r
  | 'u' :: r => codePoint? 4 r
  | 'U' :: r => codePoint? 8 r
  | _ => none

/-- A literal text on one line, after its opening quote. -/
def literal? : List Char → List Char → Option (String × List Char)
  | _, [] => none
  | done, c :: r =>
    if c = '\'' then some (String.ofList done.reverse, r)
    else if isPlain c then literal? (c :: done) r
    else none

/-- A basic text on one line, after its opening quote. -/
def basic? : Nat → List Char → List Char → Option (String × List Char)
  | 0, _, _ => none
  | _ + 1, _, [] => none
  | fuel + 1, done, c :: r =>
    if c = '"' then some (String.ofList done.reverse, r)
    else if c = '\\' then do
      let (c, r) ← escaped? r
      basic? fuel (c :: done) r
    else if isPlain c then basic? fuel (c :: done) r
    else none

/-- How many of a quote stand at the start of a text, up to five. -/
def quoteRun (q : Char) (l : List Char) : Nat := ((l.take 5).takeWhile (· == q)).length

/-- A literal text over several lines, after its opening quotes. Up to two
quotes may stand right before the closing three. -/
def literalLines? : Nat → List Char → List Char → Option (String × List Char)
  | 0, _, _ => none
  | fuel + 1, done, l =>
    let run := quoteRun '\'' l
    if 3 ≤ run then
      some (String.ofList (List.replicate (run - 3) '\'' ++ done).reverse, l.drop run)
    else match l with
      | [] => none
      | '\n' :: r => literalLines? fuel ('\n' :: done) r
      | '\r' :: '\n' :: r => literalLines? fuel ('\n' :: '\r' :: done) r
      | c :: r => if isPlain c then literalLines? fuel (c :: done) r else none

/-- Passes over blanks and line ends. -/
def skipLines : Nat → List Char → List Char
  | 0, l => l
  | fuel + 1, l =>
    match lineEnd? l with
    | some r => skipLines fuel r
    | none =>
      match l with
      | c :: r => if isBlank c then skipLines fuel r else l
      | [] => []

/-- A basic text over several lines, after its opening quotes. A backslash at
the end of a line takes away all blanks and line ends after it. -/
def basicLines? : Nat → List Char → List Char → Option (String × List Char)
  | 0, _, _ => none
  | fuel + 1, done, l =>
    let run := quoteRun '"' l
    if 3 ≤ run then
      some (String.ofList (List.replicate (run - 3) '"' ++ done).reverse, l.drop run)
    else match l with
      | [] => none
      | '\n' :: r => basicLines? fuel ('\n' :: done) r
      | '\r' :: '\n' :: r => basicLines? fuel ('\n' :: '\r' :: done) r
      | c :: r =>
        if c = '\\' then
          match lineEnd? (r.dropWhile isBlank) with
          | some r => basicLines? fuel done (skipLines r.length r)
          | none => do
            let (c, r) ← escaped? r
            basicLines? fuel (c :: done) r
        else if isPlain c then basicLines? fuel (c :: done) r
        else none

/-- The text without a line end at its start. -/
def dropLineEnd (l : List Char) : List Char := (lineEnd? l).getD l

/-- A quoted text on one line. -/
def quotedLine? : List Char → Option (String × List Char)
  | '"' :: r => basic? (r.length + 1) [] r
  | '\'' :: r => literal? [] r
  | _ => none

/-- A quoted text. -/
def quoted? (l : List Char) : Option (String × List Char) :=
  match l with
  | '"' :: '"' :: '"' :: r => basicLines? (r.length + 1) [] (dropLineEnd r)
  | '\'' :: '\'' :: '\'' :: r => literalLines? (r.length + 1) [] (dropLineEnd r)
  | l => quotedLine? l

end AccessPolicy.Toml
