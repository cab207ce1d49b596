/-!
# `EntitlementClient.Calendar`: dates of the Gregorian calendar

A date is a day of the proleptic Gregorian calendar, from year 1 on. Days are counted from
1 January of year 1, so that a date a number of days ahead is an addition. `Date.maxYear`
bounds the calendar; a day beyond it does not exist.
-/

set_option autoImplicit false

namespace EntitlementClient

/-- A day of the calendar. -/
structure Date where
  year : Nat
  /-- From 1 to 12. -/
  month : Nat
  /-- From 1 to the length of the month. -/
  day : Nat
deriving DecidableEq, Repr, Inhabited

namespace Date

/-- The last year of the calendar. -/
def maxYear : Nat := 262142

/-- Whether the year has a leap day. -/
def isLeapYear (year : Nat) : Bool := year % 4 = 0 && (year % 100 ≠ 0 || year % 400 = 0)

/-- The lengths of the months of a year. -/
def monthLengths (year : Nat) : List Nat :=
  [31, if isLeapYear year then 29 else 28, 31, 30, 31, 30, 31, 31, 30, 31, 30, 31]

/-- The days before 1 January of a year. -/
def daysBeforeYear (year : Nat) : Nat :=
  let y := year - 1
  y * 365 + y / 4 - y / 100 + y / 400

/-- The number of a day, with 1 January of year 1 as 0. -/
def toDays (d : Date) : Nat :=
  daysBeforeYear d.year + ((monthLengths d.year).take (d.month - 1)).foldr (· + ·) 0 + (d.day - 1)

/-- The month and day of a year that lies `n` days after the first of the month `month`. -/
def monthAndDay (month n : Nat) : List Nat → Nat × Nat
  | [] => (month, n + 1)
  | length :: rest => if n < length then (month, n + 1) else monthAndDay (month + 1) (n - length) rest

/-- The year that holds a day. Four hundred years have 146097 days, so the estimate is at
most one year too late or too early. -/
def yearOfDays (n : Nat) : Nat :=
  let estimate := n * 400 / 146097 + 1
  if n < daysBeforeYear estimate then estimate - 1
  else if daysBeforeYear (estimate + 1) ≤ n then estimate + 1
  else estimate

/-- The day with a number. -/
def ofDays (n : Nat) : Date :=
  let year := yearOfDays n
  let (month, day) := monthAndDay 1 (n - daysBeforeYear year) (monthLengths year)
  ⟨year, month, day⟩

/-- The date a number of days ahead, if the calendar reaches that far. -/
def addDays? (d : Date) (n : Nat) : Option Date :=
  let target := d.toDays + n
  if target < daysBeforeYear (maxYear + 1) then some (ofDays target) else none

/-- The date a number of days ahead, or the same date if the calendar does not reach that far. -/
def daysAhead (d : Date) (n : Nat) : Date := (d.addDays? n).getD d

/-- A number with at least `width` digits. -/
def padded (width n : Nat) : List Char :=
  let digits := Nat.toDigits 10 n
  List.replicate (width - digits.length) '0' ++ digits

/-- The date as year, month and day with hyphens between. A year beyond 9999 has a plus sign. -/
def text (d : Date) : String :=
  String.ofList ((if 9999 < d.year then ['+'] else []) ++ padded 4 d.year ++ '-' :: padded 2 d.month
    ++ '-' :: padded 2 d.day)

end Date

end EntitlementClient
