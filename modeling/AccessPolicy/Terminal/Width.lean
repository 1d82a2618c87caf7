/-
The number of columns that a text takes on a terminal.

The text is read from its end, because what follows a character decides
whether it is shown for itself: a selector makes it wide or narrow, a joiner
or a skin tone merges it with an emoji, and some letters are shown as one.
-/
import AccessPolicy.Terminal.Emoji
import AccessPolicy.Terminal.Ligature
import AccessPolicy.Terminal.Wide

namespace AccessPolicy.Terminal

/-- The number of columns that a character takes by itself. One sign of Khmer
is shown as three. -/
def charWidth (c : Char) : Nat :=
  if c = '\u17d8' then 3 else if isZeroWidth c then 0 else if isWide c then 2 else 1

/-! ## What follows a character -/

/-- What follows a character, as far as it matters for its columns. -/
inductive Follower where
  | other
  | lineFeed
  /-- A skin tone. -/
  | tone
  /-- One letter of a flag. -/
  | flagLetter
  /-- Several of them. -/
  | flagLetters
  /-- An emoji, or what has become part of one. -/
  | emoji
  /-- A joiner before an emoji. -/
  | joined
  /-- The frame of a key before such a joiner. -/
  | joinedKey
  /-- One letter of a flag before such a joiner. -/
  | joinedFlagLetter
  /-- Several of them, with whether their number is even. -/
  | joinedFlagLetters (even : Bool)
  /-- The end of a tag before such a joiner, with so many letters before it. -/
  | tagLetters (count : Nat)
  /-- Such an end and its letters, with so many digits before them. -/
  | tagDigits (count : Nat)
  /-- The vowel signs e and ai of Kirat Rai. -/
  | vowelE
  | vowelAi
  /-- The second half of a ligature. -/
  | ligature (l : Ligature)
deriving DecidableEq

namespace Follower

/-- What a character is for the one before it. -/
def ofChar (c : Char) : Follower :=
  match Ligature.ofChar? c with
  | some l => ligature l
  | none =>
    if isFlagLetter c then flagLetter
    else if isTone c then tone
    else if isEmoji c then emoji
    else if c.toNat = 0x16d67 then vowelE
    else if c.toNat = 0x16d68 then vowelAi
    else other

/-- Whether a joiner before it merges it with an emoji. -/
def isJoinable : Follower → Bool
  | emoji | tone | flagLetters | joinedFlagLetters _ => true
  | _ => false

/-- What a character before a joiner and an emoji adds to their columns, and
what they are together. -/
def mergeJoined? (c : Char) : Option (Int × Follower) :=
  if c = '\u20e3' then some (0, joinedKey)
  else if isFlagLetter c then some (1, joinedFlagLetter)
  else if isTone c then some (0, tone)
  else if c.toNat = 0xe007f then some (0, tagLetters 0)
  else if isEmoji c then some (0, emoji)
  else none

/-- What a character before the end of a tag adds to its columns. The tag of a
flag consists of three to six letters, or of three digits and at most four
letters. -/
def mergeTag? (c : Char) : Follower → Option (Int × Follower)
  | tagLetters n =>
    if isTagLetter c && n < 6 then some (0, tagLetters (n + 1))
    else if isTagDigit c && n ≤ 4 then some (0, tagDigits 1)
    else if c.toNat = 0x1f3f4 ∧ 3 ≤ n then some (0, emoji)
    else none
  | tagDigits n =>
    if isTagDigit c && n < 3 then some (0, tagDigits (n + 1))
    else if c.toNat = 0x1f3f4 ∧ n = 3 then some (0, emoji)
    else none
  | _ => none

/-- What a character before a vowel sign of Kirat Rai adds to its columns. -/
def mergeVowel? (c : Char) : Follower → Option (Int × Follower)
  | vowelE =>
    match c.toNat with
    | 0x16d63 => some (0, other)
    | 0x16d67 => some (0, vowelAi)
    | 0x16d68 => some (1, vowelE)
    | 0x16d69 => some (0, other)
    | _ => none
  | vowelAi => if c.toNat = 0x16d63 then some (0, other) else none
  | _ => none

/-- What a character adds to the columns of what follows it, and what they are
together; nothing if they do not belong together. -/
def merge? (c : Char) (f : Follower) : Option (Int × Follower) :=
  if c = joiner ∧ f.isJoinable then some (0, joined)
  else match f with
    | tone => if isTonable c then some (0, emoji) else none
    | flagLetter | flagLetters => if isFlagLetter c then some (1, flagLetters) else none
    | joined => mergeJoined? c
    | joinedFlagLetter | joinedFlagLetters false =>
      if isFlagLetter c then some (-1, joinedFlagLetters true) else none
    | joinedFlagLetters true =>
      if isFlagLetter c then some (3, joinedFlagLetters false) else none
    | tagLetters _ | tagDigits _ => mergeTag? c f
    | vowelE | vowelAi => mergeVowel? c f
    | ligature l => (l.merge? c).map fun (n, l) => (n, (l.map ligature).getD other)
    | other | lineFeed | emoji | joinedKey => none

end Follower

/-! ## Selectors -/

/-- What a selector makes of the character before it. -/
inductive Selector where
  | emoji
  | text
  /-- A wide quotation mark. -/
  | quote
deriving DecidableEq

/-- The selector that the character is. -/
def Selector.ofChar? (c : Char) : Option Selector :=
  if c = '\ufe0f' then some .emoji
  else if c = '\ufe0e' then some .text
  else if c = '\ufe01' then some .quote
  else none

/-- What follows a character: perhaps a selector, and what comes after it. -/
structure Context where
  selector : Option Selector := none
  follower : Follower := .other
deriving DecidableEq

namespace Context

/-- The follower as a character sees it that the selector says nothing about. -/
def unselected (x : Context) : Follower :=
  match x.selector, x.follower with
  | some _, .ligature l => .ligature l
  | some _, _ => .other
  | none, f => f

/-- The follower as it stands behind a selector. -/
def behind (s : Selector) : Follower → Follower
  | .ligature l => .ligature l
  | .joined => if s = .emoji then .joined else .other
  | .joinedKey => if s = .emoji then .joinedKey else .other
  | _ => .other

/-- The columns of a character that the selector makes something else. -/
def selected? (x : Context) (c : Char) : Option (Int × Follower) :=
  match x.selector with
  | some .emoji =>
    if isSelectable c then
      some (if x.follower = .joined ∨ x.follower = .joinedKey then 0 else 2, .emoji)
    else none
  | some .text => if isNarrowable c then some (1, .other) else none
  | some .quote =>
    if c = '\u2018' ∨ c = '\u2019' ∨ c = '\u201c' ∨ c = '\u201d' then some (2, .other) else none
  | none => none

/-- What a character adds to the columns of what follows it, and what they are
together for the character before. A line end of two characters takes one
column. -/
def step (c : Char) (x : Context) : Int × Context :=
  match x.selected? c with
  | some (n, f) => (n, { follower := f })
  | none =>
    let f := x.unselected
    if c = '\n' then (1, { follower := .lineFeed })
    else if c = '\r' ∧ f = .lineFeed then (0, {})
    else if c ≤ '\u00a0' then (1, {})
    else match Selector.ofChar? c with
      | some s => (0, { selector := s, follower := behind s f })
      | none =>
        match f.merge? c with
        | some (n, f) => (n, { follower := f })
        | none => (charWidth c, { follower := .ofChar c })

end Context

/-- The number of columns that characters take, and what they are for a
character before them. -/
def scan (l : List Char) : Int × Context :=
  l.foldr (fun c (n, x) => let (m, y) := x.step c; (m + n, y)) (0, {})

@[simp] theorem scan_nil : scan [] = (0, {}) := rfl

theorem scan_cons (c : Char) (l : List Char) :
    scan (c :: l) = (((scan l).2.step c).1 + (scan l).1, ((scan l).2.step c).2) := rfl

/-- The number of columns that a text takes. -/
def width (s : String) : Nat := (scan s.toList).1.toNat

end AccessPolicy.Terminal
