/-
Text in lower case: every character by its own mapping, except that a capital
sigma which ends a word becomes the final form `ς`.

`lowerChar_ascii` says that on ASCII the mapping is the familiar one, and
`lowerFrom_append` that what stands before an underscore goes to lower case by
itself.
-/
import AccessPolicy.Text.Case

namespace AccessPolicy.Text

/-- What a run of the mapping table makes of a code point, if it lies in the run. -/
def lowerBy (n : Nat) : Nat × Nat × Nat × Int → Option Nat
  | (first, last, step, shift) =>
    if first ≤ n ∧ n ≤ last ∧ (n - first) % step = 0 then some ((n : Int) + shift).toNat else none

/-- The lower case of one character. A capital I with a dot needs two. -/
def lowerChar (c : Char) : List Char :=
  if c.toNat < 0x80 then [c.toLower]
  else if c = 'İ' then ['i', '\u0307']
  else match lowerRuns.findSome? (lowerBy c.toNat) with
    | some n => [Char.ofNat n]
    | none => [c]

theorem lowerChar_ascii {c : Char} (h : c.toNat < 0x80) : lowerChar c = [c.toLower] := by
  simp [lowerChar, h]

/-- Whether the first character that counts is a letter with case. -/
def meetsCased (l : List Char) : Bool :=
  ((l.dropWhile isCaseIgnorable).head?.map isCased).getD false

/-- The lower case of the rest of a text, given what precedes it, last character first. -/
def lowerFrom : List Char → List Char → List Char
  | _, [] => []
  | before, c :: rest =>
    (if c = 'Σ' then [if meetsCased before && !meetsCased rest then 'ς' else 'σ'] else lowerChar c)
      ++ lowerFrom (c :: before) rest

/-- The text in lower case. -/
def lowerCase (s : String) : String := String.ofList (lowerFrom [] s.toList)

/-! ## Underscores -/

/-- An underscore ends a word, as the end of the text does. -/
theorem meetsCased_append (l r : List Char) : meetsCased (l ++ '_' :: r) = meetsCased l := by
  have hignorable : isCaseIgnorable '_' = false := by decide +kernel
  have hcased : isCased '_' = false := by decide +kernel
  rw [meetsCased, meetsCased, List.dropWhile_append]
  cases hl : l.dropWhile isCaseIgnorable with
  | nil => simp [hignorable, hcased]
  | cons c l => simp

theorem lowerFrom_append (r : List Char) : ∀ (l before : List Char),
    lowerFrom before (l ++ '_' :: r) = lowerFrom before l ++ lowerFrom (l.reverse ++ before) ('_' :: r)
  | [], _ => rfl
  | c :: l, before => by
    rw [List.cons_append, lowerFrom, lowerFrom, meetsCased_append, lowerFrom_append r l,
      List.append_assoc, List.reverse_cons, List.append_assoc, List.singleton_append]

/-- A text and an underscore after it go to lower case separately. -/
theorem lowerCase_append_underscore (s : String) :
    (lowerCase (s ++ "_")).toList = (lowerCase s).toList ++ ['_'] := by
  have hlist : (s ++ "_").toList = s.toList ++ ['_'] := by simp
  rw [lowerCase, lowerCase, String.toList_ofList, String.toList_ofList, hlist, lowerFrom_append]
  rfl

end AccessPolicy.Text
