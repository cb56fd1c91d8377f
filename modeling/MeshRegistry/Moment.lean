import MeshRegistry.Text.Ranges
import MeshRegistry.Text.Numeral
import MeshRegistry.Text.Pieces
/-!
# Moments

A moment is a date with a time of day, to the second, in coordinated universal time. It is written
as `2024-01-31T23:59:59Z`. A reader accepts more: numbers without their leading zeros, spaces
between the parts, fractions of a second, which are lost, and a time zone, whose distance is taken
off.

The second may be the sixtieth of a minute, where one has been inserted. Since time zones differ by
whole minutes, the second is the same in all of them.

## Main definitions

- `Moment`: the moments.
- `Moment.dayOf`, `Moment.ofDay`: the days of the calendar by their numbers.
- `Moment.ofText?`, `Moment.text`: reading and writing.
-/

namespace MeshRegistry

/-- A moment in coordinated universal time. -/
structure Moment where
  /-- The year of the Gregorian calendar; the one before the first is zero. -/
  year : Int
  /-- The month, from one. -/
  month : Nat
  /-- The day of the month, from one. -/
  day : Nat
  /-- The hour. -/
  hour : Nat
  /-- The minute. -/
  minute : Nat
  /-- The second. -/
  second : Nat
deriving DecidableEq, Repr

namespace Moment

/-! ## The calendar -/

/-- Whether a year has a day more than others. -/
def isLeapYear (year : Int) : Bool := year % 4 == 0 && (year % 100 != 0 || year % 400 == 0)

/-- How many days a month has. -/
def daysIn (year : Int) (month : Nat) : Nat :=
  if month = 2 then if isLeapYear year then 29 else 28
  else if [4, 6, 9, 11].contains month then 30
  else 31

/-- The years that have a calendar. -/
def hasCalendar (year : Int) : Bool := decide (-262143 ≤ year ∧ year ≤ 262142)

/-- Whether a date is in the calendar. -/
def isDate (year : Int) (month day : Nat) : Bool :=
  hasCalendar year && decide (1 ≤ month ∧ month ≤ 12 ∧ 1 ≤ day ∧ day ≤ daysIn year month)

/-- How many days four hundred years have. -/
def daysInEra : Int := 146097

/-- The number of a day, counted from the first of March of the year zero. Years begin in March
here, so that the day that some have more is the last of a year. -/
def dayOf (year : Int) (month day : Nat) : Int :=
  let y := if month ≤ 2 then year - 1 else year
  let ofEra := y % 400
  let ofYear := (153 * ((month + 9) % 12) + 2) / 5 + day - 1
  y / 400 * daysInEra + ofEra * 365 + ofEra / 4 - ofEra / 100 + ofYear

/-- The year, the month and the day with a number. -/
def ofDay (n : Int) : Int × Nat × Nat :=
  let d := n % daysInEra
  let ofEra := (d - d / 1460 + d / 36524 - d / 146096) / 365
  let ofYear := (d - (365 * ofEra + ofEra / 4 - ofEra / 100)).toNat
  let m := (5 * ofYear + 2) / 153
  let month := if m < 10 then m + 3 else m - 9
  let year := n / daysInEra * 400 + ofEra
  (if month ≤ 2 then year + 1 else year, month, ofYear - (153 * m + 2) / 5 + 1)

example : dayOf 0 3 1 = 0 ∧ dayOf 1970 1 1 = 719468 ∧ ofDay 719468 = (1970, 1, 1) := by decide

example : ofDay (dayOf 2024 2 29) = (2024, 2, 29) ∧ ofDay (dayOf (-1) 12 31) = (-1, 12, 31) := by
  decide

/-- The moment that is some minutes earlier, if it is in the calendar. -/
def earlier? (m : Moment) (minutes : Int) : Option Moment :=
  let all := (dayOf m.year m.month m.day * 24 + m.hour) * 60 + m.minute - minutes
  let (year, month, day) := ofDay (all / 1440)
  let ofDay := (all % 1440).toNat
  if hasCalendar year then some ⟨year, month, day, ofDay / 60, ofDay % 60, m.second⟩ else none

/-! ## Reading -/

/-- A number of at most so many digits, after blanks, and what follows it. -/
def digits? (most : Nat) (cs : List Char) : Option (Nat × List Char) :=
  let cs := Text.dropBlanks cs
  let digits := (cs.take most).takeWhile Char.isDigit
  (Text.nat? digits).map (·, cs.drop digits.length)

/-- A year: four digits at most, or any number of them behind a sign. -/
def year? (cs : List Char) : Option (Int × List Char) :=
  match Text.dropBlanks cs with
  | '-' :: rest => signed? true rest
  | '+' :: rest => signed? false rest
  | cs => (digits? 4 cs).map fun (n, rest) => ((n : Int), rest)
where
  /-- A year behind its sign. -/
  signed? (negative : Bool) (cs : List Char) : Option (Int × List Char) :=
    let digits := cs.takeWhile Char.isDigit
    (Text.nat? digits).map fun n => (if negative then -(n : Int) else n, cs.drop digits.length)

/-- What follows a sign, before which there may be blanks. -/
def sign? (c : Char) (cs : List Char) : Option (List Char) :=
  match Text.dropBlanks cs with
  | d :: rest => if d = c then some rest else none
  | [] => none

/-- What follows the fraction of a second, if there is one. -/
def afterFraction? : List Char → Option (List Char)
  | '.' :: rest =>
    if rest.head?.any Char.isDigit then some (rest.dropWhile Char.isDigit) else none
  | cs => some cs

/-- The two digits at the front. -/
def twoDigits? : List Char → Option (Nat × List Char)
  | a :: b :: rest => (Text.nat? [a, b]).map (·, rest)
  | _ => none

/-- How many minutes a time zone is ahead, behind its sign. -/
def zoneMinutes? (cs : List Char) : Option (Int × List Char) := do
  let (hours, rest) ← twoDigits? cs
  let (minutes, rest) ← twoDigits? (rest.dropWhile fun c => c == ':' || Text.isBlank c)
  if 60 ≤ minutes ∨ 24 ≤ hours then none
  return ((hours * 60 + minutes : Nat), rest)

/-- How many minutes a time zone is ahead, and what follows it. -/
def zone? (cs : List Char) : Option (Int × List Char) :=
  match Text.dropBlanks cs with
  | [] => none
  | c :: rest =>
    if ((c :: rest).take 3).map Char.toUpper = ['U', 'T', 'C'] then some (0, rest.drop 2)
    else if c = 'Z' ∨ c = 'z' then some (0, rest)
    else if c = '+' then zoneMinutes? rest
    -- The sign of subtraction may also be the mathematical one.
    else if c = '-' ∨ c = '\u2212' then (zoneMinutes? rest).map fun (n, rest) => (-n, rest)
    else none

/-- What follows the sign between the date and the time of day. -/
def time? : List Char → Option (List Char)
  | c :: rest => if c = 'T' ∨ c = 't' ∨ c = ' ' then some rest else none
  | [] => none

/-- The moment that a text writes. -/
def ofText? (s : String) : Option Moment := do
  let (year, cs) ← year? s.toList
  let (month, cs) ← digits? 2 (← sign? '-' cs)
  let (day, cs) ← digits? 2 (← sign? '-' cs)
  let (hour, cs) ← digits? 2 (← time? cs)
  let (minute, cs) ← digits? 2 (← sign? ':' cs)
  let (second, cs) ← digits? 2 (← sign? ':' cs)
  let (ahead, cs) ← zone? (← afterFraction? cs)
  if Text.dropBlanks cs ≠ [] then none
  if !isDate year month day ∨ 24 ≤ hour ∨ 60 ≤ minute ∨ 61 ≤ second then none
  earlier? { year, month, day, hour, minute, second } ahead

/-! ## Writing -/

/-- A number with at least so many digits. -/
def padded (least n : Nat) : List Char :=
  let digits := Nat.toDigits 10 n
  List.replicate (least - digits.length) '0' ++ digits

/-- A year with four digits; one that has more, or is below zero, has a sign in front. -/
def yearText (year : Int) : List Char :=
  if 0 ≤ year ∧ year ≤ 9999 then padded 4 year.toNat
  else (if year < 0 then '-' else '+') :: padded 4 year.natAbs

/-- The text of a moment. -/
def text (m : Moment) : String :=
  String.ofList (yearText m.year ++ '-' :: padded 2 m.month ++ '-' :: padded 2 m.day
    ++ 'T' :: padded 2 m.hour ++ ':' :: padded 2 m.minute ++ ':' :: padded 2 m.second ++ ['Z'])

end Moment

end MeshRegistry
