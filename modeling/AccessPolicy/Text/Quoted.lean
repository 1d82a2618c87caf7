/-
Quoted text, as the audit log shows a user: between double quotes, with an
escape for the quote, the backslash, every character without a printed form
and every character that would merge with the one before it.

An absent user is written `None`, a present one `Some(…)` around the quoted
name, so that no name can be mistaken for an absent user.
-/
import AccessPolicy.Text.Unprintable
import AccessPolicy.Text.Extending

namespace AccessPolicy.Text

/-- The lower-case hexadecimal digits of a number, without leading zeros. -/
def hexDigits (n : Nat) : List Char := Nat.toDigits 16 n

/-- The escape that names a character by its code point. -/
def codePointEscape (c : Char) : List Char := ['\\', 'u', '\x7b'] ++ hexDigits c.toNat ++ ['\x7d']

/-- A character as it stands inside the quotes. -/
def quotedChar (c : Char) : List Char :=
  if c = '\x00' then ['\\', '0']
  else if c = '\t' then ['\\', 't']
  else if c = '\n' then ['\\', 'n']
  else if c = '\r' then ['\\', 'r']
  else if c = '"' then ['\\', '"']
  else if c = '\\' then ['\\', '\\']
  else if isExtending c || isUnprintable c then codePointEscape c
  else [c]

/-- The text between double quotes. -/
def quote (s : String) : String := String.ofList ('"' :: s.toList.flatMap quotedChar ++ ['"'])

/-- An optional text, so written that absence differs from every text. -/
def quoteOption : Option String → String
  | none => "None"
  | some s => "Some(" ++ quote s ++ ")"

end AccessPolicy.Text
