/-
Letters that a terminal shows as one.

In some scripts a letter merges with the one that follows it, at once or if a
joiner stands between them. The columns of the two are then fewer than those
of each letter for itself.
-/
import AccessPolicy.Terminal.ZeroWidth

namespace AccessPolicy.Terminal

/-- The joiner of letters and of emoji. -/
def joiner : Char := '\u200d'

/-- The second half of a ligature, perhaps with a joiner before it. -/
inductive Ligature where
  /-- An Arabic alef, which merges with a lam before it. -/
  | alef
  /-- A Hebrew lamed, which merges with an alef that is joined to it. -/
  | lamed (joined : Bool)
  /-- A Khmer letter that can stand below the one before it. -/
  | khmer
  /-- A Buginese ya. With the vowel i that is joined to it, it merges with a
  ya before them. -/
  | ya (joined : Bool)
  | yaVowel
  /-- A Tifinagh letter, which merges with one that is joined to it, by the
  script's own joiner too. -/
  | tifinagh (joined : Bool)
  | tifinaghJoiner
  /-- The second of two tone letters of Lisu. -/
  | lisuTone
  /-- An Old Turkic letter, which merges with the one that is joined to it. -/
  | orkhon (joined : Bool)
deriving DecidableEq

namespace Ligature

/-- Whether the character is an Arabic lam. -/
def isLam (c : Char) : Bool :=
  c == '\u0644' || ('\u06b5' ≤ c && c ≤ '\u06b8') || c == '\u076a' || c == '\u08a6' || c == '\u08c7'

/-- The Arabic letters alef. -/
def alefRanges : List (Nat × Nat) := [
    (0x622, 0x623), (0x625, 0x625), (0x627, 0x627), (0x671, 0x673), (0x675, 0x675),
    (0x773, 0x774), (0x870, 0x882)]

/-- The Khmer letters that can stand below another. -/
def khmerRanges : List (Nat × Nat) := [
    (0x1780, 0x1782), (0x1784, 0x1787), (0x1789, 0x178c), (0x178e, 0x1793), (0x1795, 0x1798),
    (0x179b, 0x179d), (0x17a0, 0x17a0), (0x17a2, 0x17a2), (0x17a7, 0x17a7), (0x17ab, 0x17ac),
    (0x17af, 0x17af)]

/-- Whether the character is a letter of Tifinagh. -/
def isTifinagh (c : Char) : Bool := ('\u2d31' ≤ c && c ≤ '\u2d65') || c == '\u2d6f'

/-- Whether the character selects a form of the one before it, or is otherwise
passed over between two letters that merge. -/
def isPassedOver (c : Char) : Bool :=
  let n := c.toNat
  n == 0x34f || (0x17b4 ≤ n && n ≤ 0x17b5) || (0x180b ≤ n && n ≤ 0x180d) || n == 0x180f
    || (0xfe00 ≤ n && n ≤ 0xfe0f) || (0xe0100 ≤ n && n ≤ 0xe01ef)

/-- The ligature of which the character may be the second half. -/
def ofChar? (c : Char) : Option Ligature :=
  if c = '\u05dc' then some (lamed false)
  else if c = '\u1a10' then some (ya false)
  else if isTifinagh c then some (tifinagh false)
  else if c = '\ua4fc' ∨ c = '\ua4fd' then some lisuTone
  else if c.toNat = 0x10c03 then some (orkhon false)
  else if Text.inRanges alefRanges c then some alef
  else if Text.inRanges khmerRanges c then some khmer
  else none

/-- The second half with a joiner before it. -/
def join : Ligature → Ligature
  | lamed _ => lamed true
  | ya _ => ya true
  | tifinagh _ => tifinagh true
  | orkhon _ => orkhon true
  | l => l

/-- What a character adds to the columns of the second half that follows it,
and what the two are the second half of; nothing if they do not belong
together. -/
def merge? : Ligature → Char → Option (Int × Option Ligature)
  | alef, c =>
    if isLam c then some (0, none)
    else if isTransparent c then some (0, some alef)
    else none
  | l, c =>
    if c = joiner then some (0, some l.join)
    else if isPassedOver c then some (0, some l)
    else match l with
      | lamed true => if c = '\u05d0' then some (0, none) else none
      | khmer => if c = '\u17d2' then some (-1, none) else none
      | ya true => if c = '\u1a17' then some (0, some yaVowel) else none
      | yaVowel => if c = '\u1a15' then some (0, none) else none
      | tifinagh joined =>
        if c = '\u2d7f' then some (1, some tifinaghJoiner)
        else if joined && isTifinagh c then some (0, none)
        else none
      | tifinaghJoiner => if isTifinagh c then some (-1, none) else none
      | lisuTone => if '\ua4f8' ≤ c ∧ c ≤ '\ua4fb' then some (0, none) else none
      | orkhon true => if c.toNat = 0x10c32 then some (0, none) else none
      | _ => none

end Ligature

end AccessPolicy.Terminal
