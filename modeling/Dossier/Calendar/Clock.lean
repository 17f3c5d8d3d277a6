import Dossier.Calendar.Moment
/-! # The clock

    Rows are stamped with the present time in Universal Time, written as
    `2024-01-03 14:00:30`. The clock gives seconds since the start of 1970;
    from these the day is found by counting in cycles of 400 years, which all
    have the same number of days. The years of a cycle start in March, so
    that a leap day is the last day of its year. -/

namespace Dossier.Clock

/-- The number of days in 400 years. -/
def cycleDays : Nat := 146097

/-- The days from the first of March of the year 0 to the first of January
    1970. -/
def daysBefore1970 : Nat := 719468

/-- The year of a cycle in which a day of the cycle falls. -/
def yearOfCycle (day : Nat) : Nat :=
  (day - day / 1460 + day / 36524 - day / 146096) / 365

/-- The days of a cycle before one of its years. -/
def daysBeforeYear (year : Nat) : Nat :=
  365 * year + year / 4 - year / 100

/-- The month, counted from March, in which a day of the year falls. -/
def monthFromMarch (day : Nat) : Nat :=
  (5 * day + 2) / 153

/-- The days before a month counted from March. -/
def daysBeforeMonth (month : Nat) : Nat :=
  (153 * month + 2) / 5

/-- The day that is this many days after the first of January 1970. -/
def dateAfter (days : Nat) : Date :=
  let n := days + daysBefore1970
  let dayOfCycle := n % cycleDays
  let year := yearOfCycle dayOfCycle
  let dayOfYear := dayOfCycle - daysBeforeYear year
  let month := monthFromMarch dayOfYear
  let day := dayOfYear - daysBeforeMonth month + 1
  let year := 400 * (n / cycleDays) + year
  if month < 10 then ⟨year, month + 3, day⟩ else ⟨year + 1, month - 9, day⟩

example : dateAfter 0 = ⟨1970, 1, 1⟩ := by decide
example : dateAfter 11016 = ⟨2000, 2, 29⟩ := by decide
example : dateAfter 19782 = ⟨2024, 2, 29⟩ := by decide
example : dateAfter 47540 = ⟨2100, 2, 28⟩ := by decide
example : dateAfter 47541 = ⟨2100, 3, 1⟩ := by decide

/-- The stamp for a number of seconds since the start of 1970. -/
def stamp (seconds : Nat) : String :=
  let second := seconds % 86400
  Moment.dateText (dateAfter (seconds / 86400)) ++ " " ++ Moment.padded 2 (second / 3600)
    ++ ":" ++ Moment.padded 2 (second / 60 % 60) ++ ":" ++ Moment.padded 2 (second % 60)

end Dossier.Clock
