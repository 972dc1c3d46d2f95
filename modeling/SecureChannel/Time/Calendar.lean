/-! Calendar dates and times of day. -/
namespace SecureChannel

structure CalendarTime where
  year : Nat
  month : Nat
  day : Nat
  hour : Nat
  minute : Nat
  second : Nat
deriving DecidableEq

namespace CalendarTime

def isLeap (year : Nat) : Bool := year % 4 = 0 ∧ (year % 100 ≠ 0 ∨ year % 400 = 0)

/-- Zero for what is not a month. -/
def daysInMonth (year month : Nat) : Nat :=
  match month with
  | 4 | 6 | 9 | 11 => 30
  | 2 => if isLeap year then 29 else 28
  | 1 | 3 | 5 | 7 | 8 | 10 | 12 => 31
  | _ => 0

/-- A date of the calendar and a time of day. -/
def isValid (t : CalendarTime) : Bool :=
  1 ≤ t.day && t.day ≤ daysInMonth t.year t.month && t.hour ≤ 23 && t.minute ≤ 59 && t.second ≤ 59

/-- Days from year zero to the first day of a year. -/
def daysBefore (year : Nat) : Nat :=
  let past := year - 1
  if year = 0 then 0 else 366 + 365 * past + past / 4 - past / 100 + past / 400

/-- Seconds of the Unix epoch, which began with 1970; there are none before. -/
def toUnix? (t : CalendarTime) : Option Nat :=
  if t.year < 1970 then none
  else
    let months := (List.range (t.month - 1)).map fun m => daysInMonth t.year (m + 1)
    let days := daysBefore t.year - daysBefore 1970 + months.foldl (· + ·) 0 + (t.day - 1)
    some (((days * 24 + t.hour) * 60 + t.minute) * 60 + t.second)

/-- Two-digit years stand for 1950 to 2049. -/
def fullYear (year : Nat) : Nat := if 50 ≤ year then 1900 + year else 2000 + year

end CalendarTime
end SecureChannel
