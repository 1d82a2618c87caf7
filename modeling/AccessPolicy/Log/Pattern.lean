/-
Patterns for the values of fields: regular expressions, as far as telling
those that can be used from the others goes.

A pattern can be used if it is well-formed, if all that it can match is text,
and if it needs no tables of letters: neither the cases of letters beyond ASCII
nor the classes of digits, letters and blanks. Since a pattern is itself
enclosed in braces and holds no closing one, nothing in it stands in braces,
such as how often a part is repeated.
-/
import AccessPolicy.Number.Reading
import AccessPolicy.Text.Alphanumeric
import AccessPolicy.Text.Space

namespace AccessPolicy

/-- Why a pattern cannot be used. -/
inductive PatternError where
  | malformed
  /-- It asks for the edges of words beyond ASCII. -/
  | wordEdge
deriving DecidableEq

/-- The error, in words. -/
def PatternError.message : PatternError → String
  | malformed => "error building NFA"
  | wordEdge => "unsupported regex feature for DFAs: cannot build DFAs for regexes with Unicode "
      ++ "word boundaries; switch to ASCII word boundaries, or heuristically enable Unicode word "
      ++ "boundaries or use a different regex engine"

namespace Pattern

/-- How a part of a pattern is meant. -/
structure Modes where
  /-- What is matched are characters, not bytes. -/
  unicode : Bool := true
  ignoreCase : Bool := false
  /-- Blanks and comments do not count. -/
  spaced : Bool := false
deriving DecidableEq

/-! ## Blanks -/

/-- The text without blanks and comments at its start, from inside a comment or not. -/
def skipFrom : Bool → List Char → List Char
  | _, [] => []
  | true, c :: r => skipFrom (c != '\n') r
  | false, c :: r =>
    if Text.isSpace c then skipFrom false r
    else if c = '#' then skipFrom true r
    else c :: r

/-- The text without the blanks and comments at its start that do not count. -/
def skip (m : Modes) (l : List Char) : List Char := if m.spaced then skipFrom false l else l

/-- The next character behind blanks that do not count and a comment sign. -/
def peek (m : Modes) (l : List Char) : Option Char :=
  if !m.spaced then l.head?
  else match l.dropWhile Text.isSpace with
    | '#' :: r => (r.dropWhile Text.isSpace).head?
    | r => r.head?

/-! ## Single characters -/

/-- What a character or an escape stands for. -/
inductive Atom where
  /-- A code point, which an escape of two digits writes as a byte. -/
  | literal (code : Nat) (byte : Bool)
  /-- The class of digits, letters or blanks. -/
  | cls
  /-- The edge of a word. -/
  | edge
  /-- The start or the end of the text. -/
  | limit
deriving DecidableEq

/-- The character that so many hexadecimal digits name, after the value of
those before. -/
def hex? (m : Modes) : Nat → Nat → List Char → Option (Nat × List Char)
  | 0, n, l => if n.isValidChar then some (n, l) else none
  | count + 1, n, l =>
    match skip m l with
    | [] => none
    | c :: r => do hex? m count (16 * n + (← Number.digitValue? 16 c)) r

/-- An escape, after its backslash. -/
def escape? (m : Modes) : List Char → Option (Atom × List Char)
  | [] => none
  | c :: r =>
    match c with
    | 'x' => (hex? m 2 0 r).map fun (n, r) => (.literal n true, r)
    | 'u' => (hex? m 4 0 r).map fun (n, r) => (.literal n false, r)
    | 'U' => (hex? m 8 0 r).map fun (n, r) => (.literal n false, r)
    | 'd' | 's' | 'w' => if m.unicode then none else some (.cls, r)
    | 'b' | 'B' | '<' | '>' => some (.edge, r)
    | 'A' | 'z' => some (.limit, r)
    | 'a' => some (.literal 0x7 false, r)
    | 't' => some (.literal 0x9 false, r)
    | 'n' => some (.literal 0xa false, r)
    | 'v' => some (.literal 0xb false, r)
    | 'f' => some (.literal 0xc false, r)
    | 'r' => some (.literal 0xd false, r)
    | c => if c.toNat < 0x80 && !c.isAlphanum then some (.literal c.toNat false, r) else none

/-- Whether a code point may stand for itself. A byte must be ASCII, and the
cases of characters are not known. -/
def allows (m : Modes) (code : Nat) (byte : Bool) : Bool :=
  if m.unicode then !m.ignoreCase else !byte || code < 0x80

/-! ## Sets of characters -/

/-- The names of the classes of ASCII. -/
def classNames : List String := ["alnum", "alpha", "ascii", "blank", "cntrl", "digit", "graph",
  "lower", "print", "punct", "space", "upper", "word", "xdigit"]

/-- A class of ASCII, after its opening bracket: whether it is negated, and
what follows. -/
def asciiClass? : List Char → Option (Bool × List Char)
  | ':' :: l =>
    let (negated, l) := match l with
      | '^' :: r => (true, r)
      | r => (false, r)
    let name := String.ofList (l.takeWhile (· != ':'))
    match l.dropWhile (· != ':') with
    | ':' :: ']' :: r => if classNames.contains name then some (negated, r) else none
    | _ => none
  | _ => none

/-- One end of a range, or a class, which has no code point. -/
def setItem? (m : Modes) : List Char → Option (Option Nat × List Char)
  | [] => none
  | c :: r => do
    let (atom, r) ← if c = '\\' then escape? m r else some (.literal c.toNat false, r)
    match atom with
    | .literal n _ => if allows m n true then some (some n, r) else none
    | .cls => some (none, r)
    | .edge | .limit => none

/-- A character, a range or a class in a set. -/
def setRange? (m : Modes) (l : List Char) : Option (List Char) := do
  let (first, l) ← setItem? m l
  match skip m l with
  | '-' :: r =>
    if peek m r = some ']' ∨ peek m r = some '-' then some ('-' :: r)
    else
      let (last, r) ← setItem? m (skip m r)
      match first, last with
      | some a, some b => if a ≤ b then some r else none
      | _, _ => none
  | r => some r

/-- How deep parts are nested that stand side by side. -/
def nesting : List Nat → Nat
  | [] => 0
  | [d] => d
  | ds => ds.foldl max 0 + 1

/-- How deep the operands of a set operation are nested: those before, if any,
and the items of the last. -/
def operandNesting (before : Option Nat) (items : List Nat) : Nat :=
  match before with
  | none => nesting items
  | some d => max d (nesting items) + 1

/-- The set without its sign of negation. A set of bytes cannot be negated. -/
def unnegated? (m : Modes) (l : List Char) : Option (List Char) :=
  match skip m l with
  | '^' :: r => if m.unicode then some r else none
  | r => some r

/-- A set up to its closing bracket, given the nesting of the operands and
items before: how deep it is nested, and what follows. Hyphens at its opening
stand for themselves, and so does a closing bracket there. -/
def set? (m : Modes) : Nat → Bool → Option Nat → List Nat → List Char → Option (Nat × List Char)
  | 0, _, _, _, _ => none
  | fuel + 1, opening, before, items, l =>
    match skip m l with
    | [] => none
    | c :: r =>
      if opening && c == '-' then set? m fuel true before (0 :: items) r
      else if c = ']' then
        if opening && items.isEmpty then set? m fuel false before [0] r
        else some (operandNesting before items, r)
      else if c = '[' then
        match asciiClass? r with
        | some (negated, r) =>
          if negated && !m.unicode then none else set? m fuel false before (0 :: items) r
        | none => do
          let (d, r) ← set? m fuel true none [] (← unnegated? m r)
          set? m fuel false before ((d + 1) :: items) r
      else if (c == '&' || c == '-' || c == '~') && r.head? == some c then
        set? m fuel false (some (operandNesting before items)) [] (r.drop 1)
      else do set? m fuel false before (0 :: items) (← setRange? m (c :: r))

/-! ## Groups -/

/-- What an opening parenthesis starts. -/
inductive Opening where
  /-- A change of the modes in the rest of the group around it. -/
  | modes (m : Modes)
  | group (m : Modes) (name : Option String)
deriving DecidableEq

/-- The value of a flag after a list of them, in which those after a hyphen are
taken back. -/
def flagValue (flags : List Char) (flag : Char) (value : Bool) : Bool :=
  if (flags.takeWhile (· != '-')).contains flag then true
  else if flags.contains flag then false
  else value

/-- The modes after a list of flags. -/
def Modes.change (m : Modes) (flags : List Char) : Modes where
  unicode := flagValue flags 'u' m.unicode
  ignoreCase := flagValue flags 'i' m.ignoreCase
  spaced := flagValue flags 'x' m.spaced

/-- Whether flags are in order: known, none twice, and a hyphen not at the end. -/
def flagsOk (flags : List Char) : Bool :=
  flags.all "imsUuRx-".toList.contains && flags.eraseDups.length == flags.length
    && flags.getLast? != some '-'

/-- The name of a group, up to its closing angle. -/
def groupName? (l : List Char) : Option (String × List Char) :=
  let isNameChar c := c == '_' || c == '.' || c == '[' || c == ']' || Text.isAlphanumeric c
  match l with
  | [] => none
  | c :: _ =>
    match l.dropWhile isNameChar with
    | '>' :: r =>
      if c == '_' || Text.isAlphabetic c then some (String.ofList (l.takeWhile isNameChar), r)
      else none
    | _ => none

/-- What follows an opening parenthesis, up to the content of the group. -/
def opening? (m : Modes) (l : List Char) : Option (Opening × List Char) :=
  match skip m l with
  | '?' :: 'P' :: '<' :: r => (groupName? r).map fun (name, r) => (.group m name, r)
  | '?' :: '<' :: r => (groupName? r).map fun (name, r) => (.group m name, r)
  | '?' :: r =>
    let isFlag c := c != ':' && c != ')'
    let flags := r.takeWhile isFlag
    match r.dropWhile isFlag with
    | ':' :: r => if flagsOk flags then some (.group (m.change flags) none, r) else none
    | ')' :: r =>
      if flagsOk flags && !flags.isEmpty then some (.modes (m.change flags), r) else none
    | _ => none
  | r => some (.group m none, r)

/-! ## Patterns -/

/-- What is known of a pattern while it is read: the names of its groups, and
whether it asks for the edges of words beyond ASCII. -/
structure Found where
  names : List String := []
  wordEdge : Bool := false
deriving DecidableEq

/-- The names of groups with one more, which must be new. -/
def Found.name? (s : Found) : Option String → Option Found
  | none => some s
  | some name => if s.names.contains name then none else some { s with names := name :: s.names }

/-- A part that stands for itself or for a place. -/
def atom? (m : Modes) (s : Found) : List Char → Option (Found × List Char)
  | [] => none
  | '\\' :: r => do
    match ← escape? m r with
    | (.literal n byte, r) => if allows m n byte then some (s, r) else none
    | (.edge, r) => some ({ s with wordEdge := s.wordEdge || m.unicode }, r)
    | (.cls, r) | (.limit, r) => some (s, r)
  | '.' :: r => if m.unicode then some (s, r) else none
  | '^' :: r | '$' :: r => some (s, r)
  | c :: r => if allows m c.toNat false then some (s, r) else none

/-- A group up to its closing parenthesis or the end, given how deep its
branches and the parts of the last are nested so far: how deep it is, and what
follows. Flags are a part that cannot be repeated; it has no depth. -/
def branches? : Nat → Modes → Found → List Nat → List (Option Nat) → List Char →
    Option (Found × Nat × List Char)
  | 0, _, _, _, _, _ => none
  | fuel + 1, m, s, done, parts, l =>
    let branch := nesting (parts.map (·.getD 0))
    match skip m l with
    | [] => some (s, nesting (branch :: done), [])
    | ')' :: r => some (s, nesting (branch :: done), ')' :: r)
    | '|' :: r => branches? fuel m s (branch :: done) [] r
    | '(' :: r => do
      match ← opening? m r with
      | (.modes m, r) => branches? fuel m s done (none :: parts) r
      | (.group inner name, r) =>
        match ← branches? fuel inner (← s.name? name) [] [] r with
        | (s, d, ')' :: r) => branches? fuel m s done (some (d + 1) :: parts) r
        | _ => none
    | '[' :: r => do
      if m.unicode && m.ignoreCase then none
      let (d, r) ← set? m fuel true none [] (← unnegated? m r)
      branches? fuel m s done (some (d + 1) :: parts) r
    | c :: r =>
      if c = '?' ∨ c = '*' ∨ c = '+' then
        match parts with
        | some d :: parts =>
          let r := if r.head? = some '?' then r.drop 1 else r
          branches? fuel m s done (some (d + 1) :: parts) r
        | _ => none
      else if c = '\x7b' then none
      else do
        let (s, r) ← atom? m s (c :: r)
        branches? fuel m s done (some 0 :: parts) r

/-- How deep the parts of a pattern may be nested. -/
def maxNesting : Nat := 250

/-- Whether a pattern can be used. -/
def check (l : List Char) : Except PatternError Unit :=
  match branches? (l.length + 1) {} {} [] [] l with
  | some (s, d, []) =>
    if maxNesting < d then .error .malformed
    else if s.wordEdge then .error .wordEdge
    else .ok ()
  | _ => .error .malformed

end Pattern

end AccessPolicy
