import DelegatedScopes.Arithmetic

/-!
# Instants — the calendar

Dates of the Gregorian calendar, extended in both directions: year 0 is the year before year 1 and
is a leap year.  Days are numbered from the first of January of year 0.

* `Date.Valid`: the month exists and has the day.
* `Date.dayNumber`, `Date.ofDayNumber`: a date and its day number.
-/

namespace DelegatedScopes

/-- A date; months and days count from one. -/
structure Date where
  year : Int
  month : Nat
  day : Nat
deriving DecidableEq

namespace Date

/-- Whether a year has a 29th of February. -/
def isLeap (year : Int) : Bool := year % 4 == 0 && (year % 100 != 0 || year % 400 == 0)

/-- The lengths of the months of a year. -/
def monthLengths (year : Int) : List Nat :=
  [31, if isLeap year then 29 else 28, 31, 30, 31, 30, 31, 31, 30, 31, 30, 31]

/-- The number of days before a year, counted from year 0: 365 for each, one more for each leap
year among them. -/
def yearStart (year : Int) : Int :=
  365 * year + (year + 3) / 4 - (year + 99) / 100 + (year + 399) / 400

/-- The month exists and has the day. -/
def Valid (d : Date) : Prop :=
  1 ≤ d.month ∧ d.month ≤ 12 ∧ 1 ≤ d.day ∧ d.day ≤ (monthLengths d.year).getD (d.month - 1) 0

instance (d : Date) : Decidable d.Valid := by unfold Valid; infer_instance

/-- The number of a date's day. -/
def dayNumber (d : Date) : Int :=
  yearStart d.year + total ((monthLengths d.year).take (d.month - 1)) + d.day - 1

/-- The year of a day.  A mean year of 146097/400 days gives it up to one, and the start of the
year decides. -/
def yearOfDay (n : Int) : Int :=
  let guess := n * 400 / 146097
  if n < yearStart guess then guess - 1
  else if n < yearStart (guess + 1) then guess
  else guess + 1

/-- The month and the day of the month, from the days since the start of the month `month` and the
lengths of the months from there on. -/
def findMonth (month days : Nat) : List Nat → Nat × Nat
  | [] => (month, days + 1)
  | length :: rest =>
    if days < length then (month, days + 1) else findMonth (month + 1) (days - length) rest

/-- The date of a day. -/
def ofDayNumber (n : Int) : Date :=
  let year := yearOfDay n
  let found := findMonth 1 (n - yearStart year).toNat (monthLengths year)
  ⟨year, found.1, found.2⟩

/-- The number of the first of January 1970. -/
def epochDay : Int := 719528

end Date

end DelegatedScopes
