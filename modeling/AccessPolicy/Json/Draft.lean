/-
The reading of JSON text.

A text is read into a draft: the tree of what it says up to the first fault.
Whoever takes data from a draft comes upon the faults in reading order, so
that of a wrong value and a later fault in the text the former is reported.
A part that nobody asks for is passed over less strictly: it may hold numbers
out of range and texts with an unpaired half of a surrogate pair, and it may
be nested to any depth.
-/
import AccessPolicy.Document.Problem

namespace AccessPolicy.Json

/-- What a number in a text says. -/
inductive Number where
  | integer (i : Int)
  | float (x : Binary64)
deriving DecidableEq

/-- What a JSON text says, up to its first fault. -/
inductive Draft where
  | null
  | bool (b : Bool)
  /-- A number, or the error of reading one that is out of range. -/
  | number (value : Except ReadError Number)
  /-- A text, or the error of reading one that is no sequence of characters. -/
  | text (value : Except ReadError String)
  /-- A fault: the error for a reader, and for one who passes over it. -/
  | broken (read pass : ReadError)
  /-- A list, and the error that ends it early. -/
  | list (items : List Draft) (ending : Except ReadError Unit)
  /-- An object, and the error that ends it early. -/
  | object (entries : List (Except ReadError String × Draft)) (ending : Except ReadError Unit)
deriving Inhabited

/-- The text without white space at its start. -/
def skipBlanks (l : List Char) : List Char :=
  l.dropWhile fun c => c == ' ' || c == '\n' || c == '\t' || c == '\r'

/-! ## Texts -/

/-- The value of four hexadecimal digits. -/
def hex4 (a b c d : Char) : Option Nat := do
  let digit (c : Char) : Option Nat :=
    if '0' ≤ c ∧ c ≤ '9' then some (c.toNat - 48)
    else if 'a' ≤ c ∧ c ≤ 'f' then some (c.toNat - 87)
    else if 'A' ≤ c ∧ c ≤ 'F' then some (c.toNat - 55)
    else none
  return (((← digit a) * 16 + (← digit b)) * 16 + (← digit c)) * 16 + (← digit d)

/-- The number that follows `\u`. Four bytes must be left for it. -/
def codeUnit (l : List Char) : Except ReadError (Nat × List Char) :=
  let fault := if (String.ofList l).utf8ByteSize < 4 then ReadError.incomplete else .malformed
  match l with
  | a :: b :: c :: d :: r =>
    match hex4 a b c d with
    | some n => .ok (n, r)
    | none => .error fault
  | _ => .error fault

/-- The character that a single letter after a backslash stands for. -/
def shortEscape : Char → Option Char
  | '"' => some '"'
  | '\\' => some '\\'
  | '/' => some '/'
  | 'b' => some '\x08'
  | 'f' => some '\x0c'
  | 'n' => some '\n'
  | 'r' => some '\r'
  | 't' => some '\t'
  | _ => none

/-- What a reader of a text finds after a code unit: the character, which may
take a second code unit, and how much of the text it uses. -/
def fromCodeUnit (n : Nat) (rest : List Char) : Except ReadError (Char × List Char) :=
  if 0xdc00 ≤ n ∧ n ≤ 0xdfff then .error .malformed
  else if n < 0xd800 ∨ 0xdfff < n then .ok (Char.ofNat n, rest)
  else match rest with
    | [] => .error .incomplete
    | ['\\'] => .error .incomplete
    | '\\' :: 'u' :: r => do
      let (low, r) ← codeUnit r
      if 0xdc00 ≤ low ∧ low ≤ 0xdfff then
        .ok (Char.ofNat (0x10000 + (n - 0xd800) * 0x400 + (low - 0xdc00)), r)
      else .error .malformed
    | _ => .error .malformed

/-- The text up to its closing quote, for a reader. `done` holds its
characters so far, last first. -/
def readText : Nat → List Char → List Char → Except ReadError String
  | 0, _, _ => .error .malformed
  | _ + 1, _, [] => .error .incomplete
  | fuel + 1, done, '\\' :: r =>
    match r with
    | [] => .error .incomplete
    | 'u' :: r => do
      let (n, r) ← codeUnit r
      let (c, r) ← fromCodeUnit n r
      readText fuel (c :: done) r
    | c :: r =>
      match shortEscape c with
      | some c => readText fuel (c :: done) r
      | none => .error .malformed
  | fuel + 1, done, c :: r =>
    if c = '"' then .ok (String.ofList done.reverse)
    else if c.toNat < 0x20 then .error .malformed
    else readText fuel (c :: done) r

/-- What follows the closing quote, for one who passes over the text. -/
def passText : Nat → List Char → Except ReadError (List Char)
  | 0, _ => .error .malformed
  | _ + 1, [] => .error .incomplete
  | fuel + 1, '\\' :: r =>
    match r with
    | [] => .error .incomplete
    | 'u' :: r => do
      let (_, r) ← codeUnit r
      passText fuel r
    | c :: r => if (shortEscape c).isSome then passText fuel r else .error .malformed
  | fuel + 1, c :: r =>
    if c = '"' then .ok r else if c.toNat < 0x20 then .error .malformed else passText fuel r

/-- A text after its opening quote: what a reader gets, and what follows. -/
def scanText (l : List Char) : Except ReadError String × Except ReadError (List Char) :=
  (readText (l.length + 1) [] l, passText (l.length + 1) l)

/-! ## Numbers -/

/-- The greatest integer that is not turned into a floating-point number. -/
def maxNatural : Nat := Nat.pow 2 64 - 1

/-- `x · 10 ^ exponent` in floating-point steps, or nothing if it is out of range. -/
def scaleByTen (x : Binary64) (exponent : Int) : Option Binary64 :=
  if exponent < -308 then
    if x.isZero then some x else scaleByTen (x.overTenTo 308) (exponent + 308)
  else if 308 < exponent then if x.isZero then some x else none
  else if exponent < 0 then some (x.overTenTo (-exponent).toNat)
  else
    let y := x.timesTenTo exponent.toNat
    if y.isInfinite then none else some y
termination_by (-exponent).toNat

/-- The leading digits that fit into 64 bits, as a number, with the number of
digits used and the number left. -/
def leadingDigits : List Char → Nat → Nat → Nat × Nat × Nat
  | [], n, used => (n, used, 0)
  | c :: r, n, used =>
    let m := 10 * n + (c.toNat - 48)
    if maxNatural < m then (n, used, r.length + 1) else leadingDigits r m (used + 1)

/-- The floating-point number of some digits before the point, some after it
and an exponent. Digits beyond the first that fill 64 bits do not count. -/
def floatOf (negative : Bool) (whole fraction : List Char) (exponent : Int) :
    Except ReadError Number :=
  let (n, _, dropped) := leadingDigits whole 0 0
  let (n, used, _) := leadingDigits fraction n 0
  match scaleByTen (.ofNat n) (exponent + dropped - used) with
  | some x => .ok (.float (if negative then x.neg else x))
  | none => .error .malformed

/-- The number with the given digits and neither point nor exponent. -/
def wholeOf (negative : Bool) (digits : List Char) : Except ReadError Number :=
  let (n, _, dropped) := leadingDigits digits 0 0
  if dropped ≠ 0 then floatOf negative digits [] 0
  else if !negative then .ok (.integer n)
  else if n = 0 ∨ Nat.pow 2 63 < n then .ok (.float (Binary64.ofNat n).neg)
  else .ok (.integer (-(n : Int)))

/-- The greatest exponent that is read as a number. -/
def maxExponent : Nat := Nat.pow 2 31 - 1

/-- The digits of an exponent as a number. One beyond all bounds makes the
number zero or puts it out of range. -/
def withExponent (negative down : Bool) (whole fraction digits : List Char) :
    Except ReadError Number :=
  let x := digits.foldl (fun n c => 10 * n + (c.toNat - 48)) 0
  if x ≤ maxExponent then floatOf negative whole fraction (if down then -(x : Int) else x)
  else if down ∨ (whole ++ fraction).all (· == '0') then .ok (.float (.zero negative))
  else .error .malformed

/-- The digits at the start of a text, and what follows them. -/
def spanDigits (l : List Char) : List Char × List Char :=
  (l.takeWhile Char.isDigit, l.dropWhile Char.isDigit)

/-- The fault of a number that stops where a digit is wanted. -/
def digitFault (rest : List Char) : Draft :=
  .broken (if rest.isEmpty then .incomplete else .malformed) .malformed

/-- The exponent of a number, after the `e`. -/
def scanExponent (negative : Bool) (whole fraction : List Char) (l : List Char) :
    Draft × List Char :=
  let (down, l) := match l with
    | '+' :: r => (false, r)
    | '-' :: r => (true, r)
    | r => (false, r)
  let (digits, rest) := spanDigits l
  if digits.isEmpty then (digitFault rest, rest)
  else (.number (withExponent negative down whole fraction digits), rest)

/-- What follows the digits before the point. -/
def scanFraction (negative : Bool) (whole : List Char) : List Char → Draft × List Char
  | '.' :: l =>
    let (fraction, rest) := spanDigits l
    if fraction.isEmpty then (digitFault rest, rest)
    else match rest with
      | c :: r =>
        if c = 'e' ∨ c = 'E' then scanExponent negative whole fraction r
        else (.number (floatOf negative whole fraction 0), rest)
      | [] => (.number (floatOf negative whole fraction 0), [])
  | c :: r =>
    if c = 'e' ∨ c = 'E' then scanExponent negative whole [] r
    else (.number (wholeOf negative whole), c :: r)
  | [] => (.number (wholeOf negative whole), [])

/-- A number after its sign. A zero at its start stands alone. -/
def scanNumber (negative : Bool) (l : List Char) : Draft × List Char :=
  match l with
  | '0' :: c :: r =>
    if c.isDigit then (.broken .malformed .malformed, []) else scanFraction negative ['0'] (c :: r)
  | _ =>
    let (whole, rest) := spanDigits l
    if whole.isEmpty then (digitFault rest, rest) else scanFraction negative whole rest

/-! ## Values -/

/-- A word after its first letter: the draft it stands for, unless the text differs. -/
def scanWord (word : List Char) (meaning : Draft) : List Char → Draft × List Char
  | l => go word l
where
  /-- Compares what is left of the word with the text. -/
  go : List Char → List Char → Draft × List Char
    | [], l => (meaning, l)
    | _ :: _, [] => (.broken .incomplete .incomplete, [])
    | w :: ws, c :: r => if w = c then go ws r else (.broken .malformed .malformed, [])

/-- A list or object that is being read. -/
inductive Frame where
  /-- A list, with its elements so far, last first. -/
  | list (items : List Draft)
  /-- An object, with its entries so far, last first, and the key whose value comes next. -/
  | object (entries : List (Except ReadError String × Draft)) (key : Except ReadError String)

/-- The draft of a text that breaks off inside the frames. -/
def abandon (d : Draft) (fault : ReadError) : List Frame → Draft
  | [] => d
  | .list items :: frames => abandon (.list (d :: items).reverse (.error fault)) fault frames
  | .object entries key :: frames =>
    abandon (.object ((key, d) :: entries).reverse (.error fault)) fault frames

/-- What the next step of reading looks for. -/
inductive Phase where
  /-- A value. -/
  | value
  /-- What follows a value. -/
  | after (d : Draft)
  /-- The first element of a list, or its end. -/
  | listStart
  /-- The first key of an object, or its end. -/
  | objectStart
  /-- A key, after the entries read so far, last first. -/
  | key (entries : List (Except ReadError String × Draft))

/-- The error of something else, or nothing, standing in a place. -/
def faultAt : List Char → ReadError
  | [] => .incomplete
  | _ :: _ => .malformed

/-- The draft of a text that breaks off at a value. -/
def abandonValue (frames : List Frame) (l : List Char) : Draft :=
  abandon (.broken (faultAt l) (faultAt l)) (faultAt l) frames

/-- Reads on, step by step. The outermost value ends with what follows it, or
with nothing if the text breaks off. Every step uses up a character, or
changes the phase for one that does. -/
def scan : Nat → Phase → List Frame → List Char → Draft × Option (List Char)
  | 0, _, frames, _ => (abandonValue frames [' '], none)
  | fuel + 1, .value, frames, l =>
    match skipBlanks l with
    | [] => (abandonValue frames [], none)
    | '[' :: r => scan fuel .listStart frames r
    | '\x7b' :: r => scan fuel .objectStart frames r
    | c :: r =>
      if c = '"' then
        match scanText r with
        | (value, .ok r) => scan fuel (.after (.text value)) frames r
        | (value, .error e) =>
          let e' := match value with
            | .error e' => e'
            | .ok _ => e
          (abandon (.broken e' e) e frames, none)
      else
        let (d, r) :=
          if c = 'n' then scanWord "ull".toList .null r
          else if c = 't' then scanWord "rue".toList (.bool true) r
          else if c = 'f' then scanWord "alse".toList (.bool false) r
          else if c = '-' then scanNumber true r
          else if c.isDigit then scanNumber false (c :: r)
          else (.broken .malformed .malformed, r)
        match d with
        | .broken _ e => (abandon d e frames, none)
        | d => scan fuel (.after d) frames r
  | fuel + 1, .listStart, frames, l =>
    match skipBlanks l with
    | ']' :: r => scan fuel (.after (.list [] (.ok ()))) frames r
    | [] => (abandon (.list [] (.error .incomplete)) .incomplete frames, none)
    | r => scan fuel .value (.list [] :: frames) r
  | fuel + 1, .objectStart, frames, l =>
    match skipBlanks l with
    | '\x7d' :: r => scan fuel (.after (.object [] (.ok ()))) frames r
    | r => scan fuel (.key []) frames r
  | fuel + 1, .key entries, frames, l =>
    match skipBlanks l with
    | '"' :: r =>
      match scanText r with
      | (key, .ok r) =>
        match skipBlanks r with
        | ':' :: r => scan fuel .value (.object entries key :: frames) r
        | r => (abandonValue (.object entries key :: frames) r, none)
      | (key, .error e) =>
        let key := match key with
          | .error e' => .error e'
          | .ok _ => .error e
        (abandon (.broken e e) e (.object entries key :: frames), none)
    | r => (abandon (.object entries.reverse (.error (faultAt r))) (faultAt r) frames, none)
  | _ + 1, .after d, [], l => (d, some l)
  | fuel + 1, .after d, .list items :: frames, l =>
    match skipBlanks l with
    | ']' :: r => scan fuel (.after (.list (d :: items).reverse (.ok ()))) frames r
    | ',' :: r =>
      match skipBlanks r with
      | ']' :: _ => (abandonValue (.list (d :: items) :: frames) [']'], none)
      | r => scan fuel .value (.list (d :: items) :: frames) r
    | r => (abandon (.list (d :: items).reverse (.error (faultAt r))) (faultAt r) frames, none)
  | fuel + 1, .after d, .object entries key :: frames, l =>
    match skipBlanks l with
    | '\x7d' :: r => scan fuel (.after (.object ((key, d) :: entries).reverse (.ok ()))) frames r
    | ',' :: r => scan fuel (.key ((key, d) :: entries)) frames r
    | r =>
      let fault := faultAt r
      (abandon (.object ((key, d) :: entries).reverse (.error fault)) fault frames, none)

namespace Draft

/-- Reads a text: its draft, and what follows the value unless the text breaks off in it. -/
def ofText (s : String) : Draft × Option (List Char) :=
  let l := s.toList
  scan (3 * l.length + 3) .value [] l

end Draft

end AccessPolicy.Json
