/-
The unquoted values of TOML: truth values, numbers, dates and times.
-/
import AccessPolicy.Document.Tree
import AccessPolicy.Toml.Datetime

namespace AccessPolicy.Toml

/-- The digits of a number in which single underscores may stand between digits. -/
def ungrouped? (isDigit : Char → Bool) : List Char → Option (List Char)
  | [] => none
  | [c] => if isDigit c then some [c] else none
  | c :: '_' :: r => if isDigit c then (ungrouped? isDigit r).map (c :: ·) else none
  | c :: r => if isDigit c then (ungrouped? isDigit r).map (c :: ·) else none

/-- A natural number in a base, after the mark of the base. -/
def based? (base : Nat) (l : List Char) : Option Int := do
  let ds ← ungrouped? (fun c => (Number.digitValue? base c).isSome) l
  let n := ds.foldl (fun (n : Nat) c => base * n + (Number.digitValue? base c).getD 0) 0
  return (n : Int)

/-- Digits without a superfluous zero at the start. -/
def decimalDigits? (l : List Char) : Option (List Char) := do
  let ds ← ungrouped? Char.isDigit l
  match ds with
  | '0' :: _ :: _ => none
  | ds => some ds

/-- An integer. -/
def integer? (l : List Char) : Option Int :=
  match l with
  | '0' :: 'x' :: r => based? 16 r
  | '0' :: 'o' :: r => based? 8 r
  | '0' :: 'b' :: r => based? 2 r
  | l =>
    let (negative, l) := Number.signed l
    (decimalDigits? l).map fun ds =>
      let n := Number.natOfDigits ds
      if negative then -(n : Int) else n

/-- Whether an integer is within the bounds of 128 bits, signed or unsigned. -/
def fitsInt128 (i : Int) : Bool := -Int.pow 2 127 ≤ i && i < Int.pow 2 128

/-- The exponent of a number: an integer that may start with zeros. -/
def exponent? (l : List Char) : Option Int :=
  let (negative, l) := Number.signed l
  (ungrouped? Char.isDigit l).map fun ds =>
    let n := Number.natOfDigits ds
    if negative then -(n : Int) else n

/-- A floating-point number with a fraction or an exponent, after its sign. -/
def unsignedFloat? (negative : Bool) (l : List Char) : Option Binary64 := do
  let whole ← decimalDigits? (l.takeWhile fun c => c.isDigit || c == '_')
  let rest := l.dropWhile fun c => c.isDigit || c == '_'
  let (fraction, rest) ← match rest with
    | '.' :: r => do
      let fraction ← ungrouped? Char.isDigit (r.takeWhile fun c => c.isDigit || c == '_')
      pure (fraction, r.dropWhile fun c => c.isDigit || c == '_')
    | r => pure ([], r)
  let exponent ← match rest with
    | [] => if fraction.isEmpty then none else some 0
    | c :: r => if c = 'e' ∨ c = 'E' then exponent? r else none
  return .ofDecimal negative (Number.natOfDigits (whole ++ fraction)) (exponent - fraction.length)

/-- A floating-point number. One that is too large is refused. -/
def float? (l : List Char) : Option Binary64 :=
  let (negative, l) := Number.signed l
  if l = ['i', 'n', 'f'] then some (.infinite negative)
  else if l = ['n', 'a', 'n'] then some .nan
  else (unsignedFloat? negative l).filter (!·.isInfinite)

/-- An unquoted value, given what dates and times become. -/
def scalar? (date : Datetime → Tree) (l : List Char) : Option Tree :=
  if l = "true".toList then some (.bool true)
  else if l = "false".toList then some (.bool false)
  else match integer? l with
    | some i => if fitsInt128 i then some (.integer i) else none
    | none =>
      match float? l with
      | some x => some (.float x)
      | none => (Datetime.parse? l).map date

end AccessPolicy.Toml
