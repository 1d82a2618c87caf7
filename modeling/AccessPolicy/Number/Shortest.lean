/-
Floating-point numbers as decimal text: the fewest digits that read back to
the number, and among those the nearest to it. If two are equally near, the
notation says which one is taken.
-/
import AccessPolicy.Number.Binary64

namespace AccessPolicy.Binary64

/-- Compares `a · 10 ^ i` with `n · 2 ^ j`. -/
def compareScaled (a : Nat) (i : Int) (n : Nat) (j : Int) : Ordering :=
  compare (a * Nat.pow 10 i.toNat * Nat.pow 2 (-j).toNat)
    (n * Nat.pow 2 j.toNat * Nat.pow 10 (-i).toNat)

/-- Whether `digits · 10 ^ exp` lies among the reals that round to `m · 2 ^ e`.
The ends of that interval belong to it when `m` is even. The gap below a
power of two is half as wide. -/
def readsBack (m : Nat) (e : Int) (digits : Nat) (exp : Int) : Bool :=
  let low := if m = Nat.pow 2 52 ∧ leastExponent < e then 4 * m - 1 else 4 * m - 2
  let ends := m % 2 == 0
  let below := compareScaled digits exp low (e - 2)
  let above := compareScaled digits exp (4 * m + 2) (e - 2)
  (below == .gt || (ends && below == .eq)) && (above == .lt || (ends && above == .eq))

/-- The least `k` between two bounds with `m · 2 ^ e < 10 ^ k`. -/
def decimalScale (m : Nat) (e : Int) : Nat → Int → Int
  | 0, k => k
  | steps + 1, k => if compareScaled 1 k m e == .gt then k else decimalScale m e steps (k + 1)

/-- Which of two digits is taken if a number lies halfway between them. -/
inductive Tie where
  | up
  | even
deriving DecidableEq

/-- Whether a number halfway above some digits is taken for the digits above. -/
def Tie.goesUp : Tie → Nat → Bool
  | up, _ => true
  | even, down => down % 2 == 1

/-- The grid point nearest to `m · 2 ^ e` that reads back, on the grid of the
multiples of `10 ^ exp`. -/
def onGrid (tie : Tie) (m : Nat) (e : Int) (exp : Int) : Option Nat :=
  let num := m * Nat.pow 2 e.toNat * Nat.pow 10 (-exp).toNat
  let den := Nat.pow 2 (-e).toNat * Nat.pow 10 exp.toNat
  let down := num / den
  match readsBack m e down exp, readsBack m e (down + 1) exp with
  | true, true =>
    match compare (2 * num) ((2 * down + 1) * den) with
    | .lt => some down
    | .eq => some (if tie.goesUp down then down + 1 else down)
    | .gt => some (down + 1)
  | true, false => some down
  | false, true => some (down + 1)
  | false, false => none

/-- The first hit on the grids of ever more digits. -/
def searchGrids (tie : Tie) (m : Nat) (e : Int) (k : Int) : Nat → Nat → Option (Nat × Int)
  | 0, _ => none
  | steps + 1, n =>
    match onGrid tie m e (k - n) with
    | some digits => some (digits, k - n)
    | none => searchGrids tie m e k steps (n + 1)

/-- The fewest decimal digits that read back to `m · 2 ^ e`, and the power of
ten of the last of them. -/
def shortest (tie : Tie) (m : Nat) (e : Int) : Nat × Int :=
  let guess := ((m.log2 : Int) + e) * 30103 / 100000 - 1
  let k := decimalScale m e 5 guess
  (searchGrids tie m e k 17 1).getD (m * Nat.pow 2 e.toNat * Nat.pow 5 (-e).toNat, min e 0)

/-- `digits · 10 ^ exp` without an exponent. -/
def positional (digits : Nat) (exp : Int) : String :=
  let ds := Nat.toDigits 10 digits
  if 0 ≤ exp then String.ofList (ds ++ List.replicate exp.toNat '0')
  else
    let places := (-exp).toNat
    let ds := List.replicate (places + 1 - ds.length) '0' ++ ds
    String.ofList (ds.take (ds.length - places) ++ '.' :: ds.drop (ds.length - places))

/-- The digits without the zeros at their end. -/
def stripZeros (digits : Nat) (exp : Int) : Nat → Nat × Int
  | 0 => (digits, exp)
  | steps + 1 =>
    if digits % 10 = 0 ∧ digits ≠ 0 then stripZeros (digits / 10) (exp + 1) steps else (digits, exp)

/-- The fewest digits of the number, without zeros at the end. -/
def significantDigits (tie : Tie) (m : Nat) (e : Int) : Nat × Int :=
  let (d, x) := shortest tie m e
  stripZeros d x (Nat.toDigits 10 d).length

/-- The sign, as it is written before a number. -/
def signText (negative : Bool) : String := if negative then "-" else ""

/-- The number without an exponent. A whole number has no decimal point, and a
tie goes up. -/
def toText : Binary64 → String
  | nan => "NaN"
  | infinite negative => signText negative ++ "inf"
  | finite negative m e =>
    signText negative ++
      if m = 0 then "0" else let (d, x) := significantDigits .up m e; positional d x

/-- The number with a decimal point, unless it is so large or so small that it
is written with a signed exponent. A tie goes to the even digit. -/
def toScientificText : Binary64 → String
  | nan => "NaN"
  | infinite negative => signText negative ++ "inf"
  | finite negative m e =>
    signText negative ++
      if m = 0 then "0.0"
      else
        let (d, x) := significantDigits .even m e
        let ds := Nat.toDigits 10 d
        let point := x + ds.length
        if 0 ≤ x ∧ point ≤ 16 then positional d x ++ ".0"
        else if -5 < point ∧ point ≤ 16 then positional d x
        else
          let fraction := ds.drop 1
          String.ofList (ds.take 1 ++ (if fraction.isEmpty then [] else '.' :: fraction))
            ++ (if 0 < point then "e+" else "e") ++ toString (point - 1)

end AccessPolicy.Binary64
