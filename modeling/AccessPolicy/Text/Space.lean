/-
White space (Unicode's property `White_Space`) and the removal of white space
around a text.
-/

namespace AccessPolicy.Text

/-- Whether the character is white space. -/
def isSpace (c : Char) : Bool :=
  let n := c.toNat
  (0x9 ≤ n && n ≤ 0xd) || n == 0x20 || n == 0x85 || n == 0xa0 || n == 0x1680
    || (0x2000 ≤ n && n ≤ 0x200a) || n == 0x2028 || n == 0x2029 || n == 0x202f
    || n == 0x205f || n == 0x3000

/-- The text without the white space at its two ends. -/
def trimList (l : List Char) : List Char :=
  ((l.dropWhile isSpace).reverse.dropWhile isSpace).reverse

/-- The text without the white space at its two ends. -/
def trim (s : String) : String := String.ofList (trimList s.toList)

/-- The pieces of a text between the occurrences of a character; one more
than there are occurrences. -/
def pieces (sep : Char) : List Char → List (List Char)
  | [] => [[]]
  | c :: rest =>
    if c = sep then [] :: pieces sep rest
    else match pieces sep rest with
      | [] => [[c]]
      | p :: ps => (c :: p) :: ps

/-- The pieces of a text between the occurrences of a character. -/
def splitAt (sep : Char) (s : String) : List String := (pieces sep s.toList).map String.ofList

theorem pieces_ne_nil (sep : Char) (l : List Char) : pieces sep l ≠ [] := by
  cases l with
  | nil => simp [pieces]
  | cons c rest =>
    simp only [pieces]
    split
    · simp
    · split <;> simp

end AccessPolicy.Text
