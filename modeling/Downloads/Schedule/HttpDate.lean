import Downloads.Text.Blank
import Downloads.Text.Integer

/-!
# HTTP dates

The three ways in which HTTP writes an instant, and the instant that such a text means. A text
is a date only if its day exists and falls on the weekday that it names.
-/

namespace Downloads

/-- A date and a time of day, with the weekday that was written beside it. -/
structure HttpDate where
  /-- From 1 for Monday to 7 for Sunday. -/
  weekday : Nat
  day : Nat
  month : Nat
  year : Nat
  hour : Nat
  minute : Nat
  second : Nat
  deriving Repr, DecidableEq

namespace HttpDate

/-! ## The calendar -/

/-- Every fourth year, but not every hundredth, but every four hundredth. -/
def isLeapYear (year : Nat) : Bool :=
  year % 4 == 0 && (year % 100 != 0 || year % 400 == 0)

def daysInMonth (year month : Nat) : Nat :=
  match month with
  | 2 => if isLeapYear year then 29 else 28
  | 4 | 6 | 9 | 11 => 30
  | _ => 31

/-- The leap years before a year, counted from the year 1. -/
def leapYearsBefore (year : Nat) : Nat := (year - 1) / 4 - (year - 1) / 100 + (year - 1) / 400

/-- The days from the start of 1970 to the start of a year. -/
def daysToYear (year : Nat) : Nat :=
  (year - 1970) * 365 + (leapYearsBefore year - leapYearsBefore 1970)

/-- The days from the start of a year to the start of a month. -/
def daysToMonth (year month : Nat) : Nat :=
  (List.range (month - 1)).foldl (fun days m => days + daysInMonth year (m + 1)) 0

/-- The days from the first of January 1970 to the date. -/
def dayNumber (d : HttpDate) : Nat := daysToYear d.year + daysToMonth d.year d.month + (d.day - 1)

/-- The weekday of a day. The first of January 1970 was a Thursday. -/
def weekdayOfDay (n : Nat) : Nat := (n + 3) % 7 + 1

/-- The date exists, from 1970 to 9999, and has the weekday that was written. -/
def isValid (d : HttpDate) : Bool :=
  d.second < 60 && d.minute < 60 && d.hour < 24 && 1 ≤ d.month && d.month ≤ 12
    && 1970 ≤ d.year && d.year ≤ 9999 && 1 ≤ d.day && d.day ≤ daysInMonth d.year d.month
    && d.weekday == weekdayOfDay d.dayNumber

/-- The seconds from the start of 1970 to the instant. -/
def toUnixSeconds (d : HttpDate) : Nat :=
  d.dayNumber * 86400 + d.hour * 3600 + d.minute * 60 + d.second

/-! ## Reading -/

def monthNames : List String :=
  ["Jan", "Feb", "Mar", "Apr", "May", "Jun", "Jul", "Aug", "Sep", "Oct", "Nov", "Dec"]

def weekdayNames : List String :=
  ["Monday", "Tuesday", "Wednesday", "Thursday", "Friday", "Saturday", "Sunday"]

/-- The number of a month, from 1. -/
def month? (a b c : Char) : Option Nat :=
  (monthNames.findIdx? fun n => n.toList == [a, b, c]).map (· + 1)

/-- The number of a weekday by the first three letters of its name, from 1. -/
def shortWeekday? (a b c : Char) : Option Nat :=
  (weekdayNames.findIdx? fun n => n.toList.take 3 == [a, b, c]).map (· + 1)

/-- The number of a weekday by its name, from 1. -/
def longWeekday? (name : List Char) : Option Nat :=
  (weekdayNames.findIdx? fun n => n.toList == name).map (· + 1)

/-- The number of digits that are all decimal. -/
def number? (ds : List Char) : Option Nat :=
  if ds.all Char.isDigit then some (Text.digitsValue ds) else none

/-- A day of two places, of which the first may be blank. -/
def paddedDay? (a b : Char) : Option Nat := if a = ' ' then number? [b] else number? [a, b]

/-- The fixed form, as in `Sun, 06 Nov 1994 08:49:37 GMT`. -/
def parseFixed : List Char → Option HttpDate
  | [w₁, w₂, w₃, ',', ' ', d₁, d₂, ' ', m₁, m₂, m₃, ' ', y₁, y₂, y₃, y₄, ' ',
      h₁, h₂, ':', n₁, n₂, ':', s₁, s₂, ' ', 'G', 'M', 'T'] => do
    return {
      weekday := ← shortWeekday? w₁ w₂ w₃
      day := ← number? [d₁, d₂]
      month := ← month? m₁ m₂ m₃
      year := ← number? [y₁, y₂, y₃, y₄]
      hour := ← number? [h₁, h₂]
      minute := ← number? [n₁, n₂]
      second := ← number? [s₁, s₂] }
  | _ => none

/-- A year of two digits lies between 1970 and 2069. -/
def fullYear (y : Nat) : Nat := if y < 70 then y + 2000 else y + 1900

/-- The form with a long weekday and a year of two digits, as in
`Sunday, 06-Nov-94 08:49:37 GMT`. What stands between year and hour is not looked at. -/
def parseDashed (s : List Char) : Option HttpDate :=
  match s.dropWhile (· != ',') with
  | [',', ' ', d₁, d₂, '-', m₁, m₂, m₃, '-', y₁, y₂, _, h₁, h₂, ':', n₁, n₂, ':', s₁, s₂,
      ' ', 'G', 'M', 'T'] => do
    return {
      weekday := ← longWeekday? (s.takeWhile (· != ','))
      day := ← number? [d₁, d₂]
      month := ← month? m₁ m₂ m₃
      year := fullYear (← number? [y₁, y₂])
      hour := ← number? [h₁, h₂]
      minute := ← number? [n₁, n₂]
      second := ← number? [s₁, s₂] }
  | _ => none

/-- The form without a comma, as in `Sun Nov  6 08:49:37 1994`. -/
def parsePlain : List Char → Option HttpDate
  | [w₁, w₂, w₃, ' ', m₁, m₂, m₃, ' ', d₁, d₂, ' ', h₁, h₂, ':', n₁, n₂, ':', s₁, s₂, ' ',
      y₁, y₂, y₃, y₄] => do
    return {
      weekday := ← shortWeekday? w₁ w₂ w₃
      day := ← paddedDay? d₁ d₂
      month := ← month? m₁ m₂ m₃
      year := ← number? [y₁, y₂, y₃, y₄]
      hour := ← number? [h₁, h₂]
      minute := ← number? [n₁, n₂]
      second := ← number? [s₁, s₂] }
  | _ => none

/-- The date that a text means, blanks at its ends apart. Dates are written in ASCII. -/
def parse (s : List Char) : Option HttpDate :=
  if s.all fun c => c.toNat < 128 then
    let s := Text.trimBoth Text.isBlank s
    ((parseFixed s).or ((parseDashed s).or (parsePlain s))).filter isValid
  else none

end HttpDate

end Downloads
