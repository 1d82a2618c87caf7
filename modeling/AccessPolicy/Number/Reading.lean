/-
Numbers read from text: signed integers of 64 bits, and floating-point
numbers in decimal or scientific notation or by name.
-/
import AccessPolicy.Number.Binary64

namespace AccessPolicy.Number

/-- The value of a list of decimal digits. -/
def natOfDigits (l : List Char) : Nat := l.foldl (fun n c => 10 * n + (c.toNat - '0'.toNat)) 0

/-- The value of a digit in a base of at most sixteen. -/
def digitValue? (base : Nat) (c : Char) : Option Nat :=
  let n :=
    if '0' ≤ c ∧ c ≤ '9' then c.toNat - 48
    else if 'a' ≤ c ∧ c ≤ 'f' then c.toNat - 87
    else if 'A' ≤ c ∧ c ≤ 'F' then c.toNat - 55
    else 16
  if n < base then some n else none

/-- Splits a sign off: whether it is a minus, and the rest. -/
def signed : List Char → Bool × List Char
  | '-' :: r => (true, r)
  | '+' :: r => (false, r)
  | r => (false, r)

/-- An integer that consists of decimal digits after an optional sign. -/
def integer? (l : List Char) : Option Int :=
  let (negative, digits) := signed l
  if digits.isEmpty || !digits.all Char.isDigit then none
  else some (if negative then -(natOfDigits digits : Int) else natOfDigits digits)

/-- Whether the integer fits into 64 bits with a sign. -/
def fitsInt64 (i : Int) : Bool := -Int.pow 2 63 ≤ i && i < Int.pow 2 63

/-- A signed integer of 64 bits. -/
def int64? (s : String) : Option Int := (integer? s.toList).filter fitsInt64

/-- The exponent part of a number: nothing, or an `e` and an integer. -/
def exponent? : List Char → Option Int
  | [] => some 0
  | c :: r => if c = 'e' ∨ c = 'E' then integer? r else none

/-- A number without its sign: digits with an optional decimal point, at least
one digit in all, and an optional exponent. -/
def unsigned? (negative : Bool) (l : List Char) : Option Binary64 :=
  let whole := l.takeWhile Char.isDigit
  let rest := l.dropWhile Char.isDigit
  let (fraction, rest) := match rest with
    | '.' :: r => (r.takeWhile Char.isDigit, r.dropWhile Char.isDigit)
    | r => ([], r)
  if whole.isEmpty && fraction.isEmpty then none
  else (exponent? rest).map fun x =>
    .ofDecimal negative (natOfDigits (whole ++ fraction)) (x - fraction.length)

/-- A floating-point number. -/
def float? (s : String) : Option Binary64 :=
  let (negative, l) := signed s.toList
  match String.ofList (l.map Char.toLower) with
  | "inf" | "infinity" => some (.infinite negative)
  | "nan" => some .nan
  | _ => unsigned? negative l

end AccessPolicy.Number
