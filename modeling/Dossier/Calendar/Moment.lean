import Dossier.Text.Blank
import Dossier.Text.Numeral
/-! # Moments

    A time entry records a calendar day, or a day with the time of day. Text
    such as `2024-01-03`, `2024-01-03T14:00` or `2024-01-03T14:00:30` is read
    into a `Moment`, and `Moment.stored` writes the one form in which it is
    kept.

    Years have up to four digits, or any number of digits after a sign; the
    other fields have one or two. Blanks in front of a field do not count.
    Second 60 is a leap second and may close any minute. -/

namespace Dossier

/-- A day of the calendar. -/
structure Date where
  year : Int
  month : Nat
  day : Nat
  deriving DecidableEq, Repr

namespace Date

/-- Every fourth year is a leap year, but of the full centuries only every
    fourth. -/
def isLeapYear (year : Int) : Bool :=
  year % 4 == 0 && (year % 100 != 0 || year % 400 == 0)

/-- The number of days in a month; a number that is no month has none. -/
def daysInMonth (year : Int) (month : Nat) : Nat :=
  match month with
  | 1 | 3 | 5 | 7 | 8 | 10 | 12 => 31
  | 4 | 6 | 9 | 11 => 30
  | 2 => if isLeapYear year then 29 else 28
  | _ => 0

/-- The first and the last year of the calendar. -/
def firstYear : Int := -262143

@[inherit_doc firstYear]
def lastYear : Int := 262142

/-- A day that the calendar has. -/
def isValid (date : Date) : Bool :=
  firstYear ≤ date.year && date.year ≤ lastYear
    && 1 ≤ date.day && date.day ≤ daysInMonth date.year date.month

end Date

/-- A moment of a time entry. -/
inductive Moment
  /-- A whole day. -/
  | onDay (date : Date)
  /-- A time of day. -/
  | atTime (date : Date) (hour minute second : Nat)
  deriving DecidableEq, Repr

namespace Moment

open Text

/-! ## Reading -/

/-- Reads one to `width` digits from the front. -/
def readDigits? (width : Nat) (cs : List Char) : Option (Nat × List Char) :=
  let digits := (cs.take width).takeWhile isDigit
  if digits.isEmpty then none
  else some (numeralValue digits, cs.drop digits.length)

/-- Reads a number of one to `width` digits from the front, behind blanks. -/
def readNumber? (width : Nat) (cs : List Char) : Option (Nat × List Char) :=
  readDigits? width (dropBlankStart cs)

/-- Reads a year from the front, behind blanks: up to four digits, or any number
    of digits after a sign. -/
def readYear? (cs : List Char) : Option (Int × List Char) :=
  match dropBlankStart cs with
  | '-' :: cs => (readDigits? cs.length cs).map (fun (n, rest) => (-(n : Int), rest))
  | '+' :: cs => (readDigits? cs.length cs).map (fun (n, rest) => ((n : Int), rest))
  | cs => (readDigits? 4 cs).map (fun (n, rest) => ((n : Int), rest))

/-- Takes one given character off the front. -/
def expect? (c : Char) : List Char → Option (List Char)
  | [] => none
  | d :: cs => if d = c then some cs else none

/-- Reads a day from the front. -/
def readDate? (cs : List Char) : Option (Date × List Char) := do
  let (year, cs) ← readYear? cs
  let cs ← expect? '-' cs
  let (month, cs) ← readNumber? 2 cs
  let cs ← expect? '-' cs
  let (day, cs) ← readNumber? 2 cs
  let date : Date := ⟨year, month, day⟩
  if date.isValid then some (date, cs) else none

/-- Reads the seconds, if there are any, at the end of a time of day. -/
def readSecond? : List Char → Option Nat
  | [] => some 0
  | ':' :: cs =>
      match readNumber? 2 cs with
      | some (second, []) => if second ≤ 60 then some second else none
      | _ => none
  | _ => none

/-- Reads a time of day: hour, minute and second. -/
def readTime? (cs : List Char) : Option (Nat × Nat × Nat) := do
  let (hour, cs) ← readNumber? 2 cs
  let cs ← expect? ':' cs
  let (minute, cs) ← readNumber? 2 cs
  let second ← readSecond? cs
  if hour < 24 && minute < 60 then some (hour, minute, second) else none

/-- Reads a moment. -/
def read? (cs : List Char) : Option Moment := do
  let (date, rest) ← readDate? cs
  match rest with
  | [] => some (.onDay date)
  | 'T' :: time =>
      let (hour, minute, second) ← readTime? time
      some (.atTime date hour minute second)
  | _ => none

/-- Reads a moment from a string. -/
def ofString? (s : String) : Option Moment :=
  read? s.toList

/-! ## Writing -/

/-- A number with zeros in front to the given width. -/
def padded (width n : Nat) : String :=
  let digits := toString n
  String.ofList (List.replicate (width - digits.length) '0') ++ digits

/-- A year of four digits; years before 0 and after 9999 have a sign. -/
def yearText (year : Int) : String :=
  if year < 0 then "-" ++ padded 4 year.natAbs
  else if 9999 < year then "+" ++ padded 4 year.natAbs
  else padded 4 year.natAbs

/-- A day as it is stored. -/
def dateText (date : Date) : String :=
  yearText date.year ++ "-" ++ padded 2 date.month ++ "-" ++ padded 2 date.day

/-- The form in which a moment is kept. Seconds are left out when they are
    zero. -/
def stored : Moment → String
  | .onDay date => dateText date
  | .atTime date hour minute second =>
      dateText date ++ " " ++ padded 2 hour ++ ":" ++ padded 2 minute
        ++ (if second = 0 then "" else ":" ++ padded 2 second)

end Moment

end Dossier
