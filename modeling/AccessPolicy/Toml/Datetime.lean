/-
Dates and times as TOML writes them: a date, a time of day, or both, and with
both possibly an offset. Seconds may be left out.
-/
import AccessPolicy.Number.Reading

namespace AccessPolicy.Toml

/-- A day of the calendar. -/
structure Date where
  year : Nat
  month : Nat
  day : Nat
deriving DecidableEq

/-- A time of day, with a fraction of a second in nanoseconds if one is written. -/
structure Time where
  hour : Nat
  minute : Nat
  second : Option Nat
  nanosecond : Option Nat
deriving DecidableEq

/-- The distance from universal time. -/
inductive Offset where
  | universal
  | minutes (behind : Bool) (distance : Nat)
deriving DecidableEq

/-- A date, a time, or both. -/
structure Datetime where
  date : Option Date
  time : Option Time
  offset : Option Offset
deriving DecidableEq

namespace Datetime

/-- Whether the year has a 29th of February. -/
def isLeap (year : Nat) : Bool := year % 4 == 0 && (year % 100 != 0 || year % 400 == 0)

/-- The number of days in a month. -/
def daysIn (year month : Nat) : Nat :=
  if month = 2 then if isLeap year then 29 else 28
  else if month = 4 ∨ month = 6 ∨ month = 9 ∨ month = 11 then 30
  else 31

/-! ## Reading -/

/-- A number of exactly so many digits. -/
def digits? (count : Nat) (l : List Char) : Option (Nat × List Char) :=
  let ds := l.take count
  if ds.length = count ∧ ds.all Char.isDigit then some (Number.natOfDigits ds, l.drop count)
  else none

/-- The rest of a text after an expected character. -/
def after? (c : Char) : List Char → Option (List Char)
  | d :: r => if c = d then some r else none
  | [] => none

/-- A date. -/
def date? (l : List Char) : Option (Date × List Char) := do
  let (year, l) ← digits? 4 l
  let (month, l) ← digits? 2 (← after? '-' l)
  let (day, l) ← digits? 2 (← after? '-' l)
  if 1 ≤ month ∧ month ≤ 12 ∧ 1 ≤ day ∧ day ≤ daysIn year month then
    some (⟨year, month, day⟩, l)
  else none

/-- The first nine digits of a fraction, as nanoseconds. -/
def nanoseconds (ds : List Char) : Nat :=
  let ds := ds.take 9
  Number.natOfDigits (ds ++ List.replicate (9 - ds.length) '0')

/-- A time. -/
def time? (l : List Char) : Option (Time × List Char) := do
  let (hour, l) ← digits? 2 l
  let (minute, l) ← digits? 2 (← after? ':' l)
  if 23 < hour ∨ 59 < minute then none
  match l with
  | ':' :: l => do
    let (second, l) ← digits? 2 l
    if 60 < second then none
    match l with
    | '.' :: l =>
      let ds := l.takeWhile Char.isDigit
      if ds.isEmpty then none
      else some (⟨hour, minute, some second, some (nanoseconds ds)⟩, l.dropWhile Char.isDigit)
    | l => some (⟨hour, minute, some second, none⟩, l)
  | l => some (⟨hour, minute, none, none⟩, l)

/-- An offset, if one follows. -/
def offset? (l : List Char) : Option (Option Offset × List Char) :=
  match l with
  | [] => some (none, [])
  | c :: r =>
    if c = 'Z' ∨ c = 'z' then some (some .universal, r)
    else if c = '+' ∨ c = '-' then do
      let (hours, r) ← digits? 2 r
      let (minutes, r) ← digits? 2 (← after? ':' r)
      if 23 < hours ∨ 59 < minutes then none
      else some (some (.minutes (c == '-') (60 * hours + minutes)), r)
    else some (none, l)

/-- A text that is a date, a time, or both, and nothing else. -/
def parse? (l : List Char) : Option Datetime :=
  match time? l with
  | some (time, []) => some ⟨none, some time, none⟩
  | some _ => none
  | none => do
    let (date, l) ← date? l
    match l with
    | [] => some ⟨some date, none, none⟩
    | c :: l =>
      if c = 'T' ∨ c = 't' ∨ c = ' ' then do
        let (time, l) ← time? l
        let (offset, l) ← offset? l
        if l.isEmpty then some ⟨some date, some time, offset⟩ else none
      else none

/-! ## Writing -/

/-- A number with zeros in front, up to a width. -/
def padded (width n : Nat) : String :=
  let ds := Nat.toDigits 10 n
  String.ofList (List.replicate (width - ds.length) '0' ++ ds)

/-- The date as it is written. -/
def dateText (d : Date) : String :=
  padded 4 d.year ++ "-" ++ padded 2 d.month ++ "-" ++ padded 2 d.day

/-- The fraction of a second, without zeros at the end. -/
def fractionText (nanosecond : Nat) : String :=
  let ds := ((padded 9 nanosecond).toList.reverse.dropWhile (· == '0')).reverse
  String.ofList (if ds.isEmpty then ['0'] else ds)

/-- The time as it is written. -/
def timeText (t : Time) : String :=
  padded 2 t.hour ++ ":" ++ padded 2 t.minute
    ++ (match t.second with
      | none => ""
      | some s => ":" ++ padded 2 s)
    ++ (match t.nanosecond with
      | none => ""
      | some n => "." ++ fractionText n)

/-- The offset as it is written. No offset is behind by nothing. -/
def offsetText : Offset → String
  | .universal => "Z"
  | .minutes behind n =>
    (if behind && n != 0 then "-" else "+") ++ padded 2 (n / 60) ++ ":" ++ padded 2 (n % 60)

/-- The date or time as it is written. -/
def text (d : Datetime) : String :=
  let date := (d.date.map dateText).getD ""
  let time := (d.time.map timeText).getD ""
  date ++ (if d.date.isSome && d.time.isSome then "T" else "") ++ time
    ++ (d.offset.map offsetText).getD ""

end Datetime

end AccessPolicy.Toml
