/-
Text as bytes in UTF-8, and the reading of bytes that may be no such text:
strictly, or with a replacement character for every stretch that cannot be the
start of a character.
-/

namespace AccessPolicy

/-- The bytes of a file. -/
abbrev Bytes := List UInt8

namespace Text

/-- The bytes of a text. -/
def toBytes (s : String) : Bytes := s.toList.flatMap String.utf8EncodeChar

/-- What the first byte of a character of several bytes says: the bounds of
the second byte, how many bytes follow that one, and the first bits of the code
point. The bounds leave out surrogates, code points beyond the last and
spellings that are too long. -/
structure Lead where
  low : Nat
  high : Nat
  more : Nat
  bits : Nat

/-- The meaning of a first byte, if it can start a character of several bytes. -/
def lead? (b : Nat) : Option Lead :=
  if b < 0xc2 then none
  else if b ≤ 0xdf then some ⟨0x80, 0xbf, 0, b - 0xc0⟩
  else if b ≤ 0xef then
    some ⟨if b = 0xe0 then 0xa0 else 0x80, if b = 0xed then 0x9f else 0xbf, 1, b - 0xe0⟩
  else if b ≤ 0xf4 then
    some ⟨if b = 0xf0 then 0x90 else 0x80, if b = 0xf4 then 0x8f else 0xbf, 2, b - 0xf0⟩
  else none

/-- The bytes after the second one: the character, unless one is missing, and
the bytes that remain. -/
def follow : Nat → Nat → Bytes → Option Char × Bytes
  | 0, n, bs => (some (Char.ofNat n), bs)
  | _ + 1, _, [] => (none, [])
  | k + 1, n, b :: bs =>
    if 0x80 ≤ b ∧ b ≤ 0xbf then follow k (64 * n + (b.toNat - 0x80)) bs else (none, b :: bs)

/-- The character that starts with a byte, unless there is none, and the bytes
that remain. -/
def character (b : UInt8) (bs : Bytes) : Option Char × Bytes :=
  if b < 0x80 then (some (Char.ofNat b.toNat), bs)
  else match lead? b.toNat, bs with
    | some l, c :: bs =>
      if l.low ≤ c.toNat ∧ c.toNat ≤ l.high then follow l.more (64 * l.bits + (c.toNat - 0x80)) bs
      else (none, c :: bs)
    | _, bs => (none, bs)

/-- The characters of so many bytes at most. -/
def charactersFrom : Nat → Bytes → List (Option Char)
  | 0, _ => []
  | _, [] => []
  | fuel + 1, b :: bs =>
    let (c, bs) := character b bs
    c :: charactersFrom fuel bs

/-- The characters that some bytes stand for; nothing where there is none. -/
def characters (bs : Bytes) : List (Option Char) := charactersFrom bs.length bs

/-- The text that some bytes stand for, if they stand for one. -/
def ofBytes? (bs : Bytes) : Option String := ((characters bs).mapM id).map String.ofList

/-- The text that some bytes stand for, with a replacement character wherever
they stand for none. -/
def ofBytesLossy (bs : Bytes) : String :=
  String.ofList ((characters bs).map fun c => c.getD '\ufffd')

end Text

end AccessPolicy
