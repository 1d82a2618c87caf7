/-
Floating-point numbers of 53 significant bits, as exact values: a sign, a
significand and a power of two. Quotients are rounded to the nearest such
number, a half to the even significand.
-/

namespace AccessPolicy

/-- A binary floating-point number. A finite one stands for
`significand · 2 ^ exponent`; its significand has 53 bits unless the exponent
is the least. -/
inductive Binary64 where
  | finite (negative : Bool) (significand : Nat) (exponent : Int)
  | infinite (negative : Bool)
  | nan
deriving DecidableEq, Inhabited

namespace Binary64

/-- The least exponent. -/
def leastExponent : Int := -1074

/-- The greatest exponent. -/
def greatestExponent : Int := 971

/-- Zero, with a sign. -/
def zero (negative : Bool) : Binary64 := finite negative 0 0

/-- The quotient of two naturals, rounded to the nearest natural, a half to the even one. -/
def halfEven (n d : Nat) : Nat :=
  let q := n / d
  let r := n % d
  if d < 2 * r ∨ (2 * r = d ∧ q % 2 = 1) then q + 1 else q

/-- The exponent at which `num / den` has 53 bits before the point, or the
least exponent if that is greater. -/
def exponentOf (num den : Nat) : Int :=
  let e := max ((num.log2 : Int) - den.log2 - 52) leastExponent
  let whole := num * Nat.pow 2 (-e).toNat / (den * Nat.pow 2 e.toNat)
  if whole < Nat.pow 2 52 ∧ leastExponent < e then e - 1 else e

/-- The number nearest to `num / den`. -/
def nearest (negative : Bool) (num den : Nat) : Binary64 :=
  if num = 0 then zero negative
  else
    let e := exponentOf num den
    let m := halfEven (num * Nat.pow 2 (-e).toNat) (den * Nat.pow 2 e.toNat)
    let (m, e) := if m = Nat.pow 2 53 then (Nat.pow 2 52, e + 1) else (m, e)
    if m = 0 then zero negative
    else if greatestExponent < e then infinite negative
    else finite negative m e

/-- The number nearest to `digits · 10 ^ exponent`. Exponents out of all
bounds are decided without computing the power. -/
def ofDecimal (negative : Bool) (digits : Nat) (exponent : Int) : Binary64 :=
  if digits = 0 then zero negative
  else if 400 < exponent then infinite negative
  else if exponent + digits.log2 + 1 < -400 then zero negative
  else nearest negative (digits * Nat.pow 10 exponent.toNat) (Nat.pow 10 (-exponent).toNat)

/-- The natural number as a floating-point number. -/
def ofNat (n : Nat) : Binary64 := nearest false n 1

/-- Whether the number is zero. -/
def isZero : Binary64 → Bool
  | finite _ m _ => m == 0
  | _ => false

/-- Whether the number is infinite. -/
def isInfinite : Binary64 → Bool
  | infinite _ => true
  | _ => false

/-- The number with the opposite sign. -/
def neg : Binary64 → Binary64
  | finite s m e => finite (!s) m e
  | infinite s => infinite (!s)
  | nan => nan

/-- The product with the floating-point number nearest to `10 ^ k`. -/
def timesTenTo (x : Binary64) (k : Nat) : Binary64 :=
  match x, nearest false (Nat.pow 10 k) 1 with
  | finite s m e, finite _ m' e' =>
    nearest s (m * m' * Nat.pow 2 (e + e').toNat) (Nat.pow 2 (-(e + e')).toNat)
  | x, _ => x

/-- The quotient by the floating-point number nearest to `10 ^ k`. -/
def overTenTo (x : Binary64) (k : Nat) : Binary64 :=
  match x, nearest false (Nat.pow 10 k) 1 with
  | finite s m e, finite _ m' e' =>
    nearest s (m * Nat.pow 2 (e - e').toNat) (m' * Nat.pow 2 (e' - e).toNat)
  | x, _ => x

end Binary64

end AccessPolicy
