import Mathlib.Data.Nat.Basic

/-!
# Instants and their stored text

An instant is a number of microseconds since the first day of year one in UTC,
within the years a date can represent. The text stored for it is the ISO form
with a trailing Z; a fraction is written only when it is not zero. Calendar
arithmetic follows the proleptic Gregorian cycles of 400, 100, 4 and 1 years.
-/

namespace TokenBank

/-- Microseconds in one day. -/
def microsPerDay : Nat := 86400000000

/-- Days from the first day of year 1 to the last day of year 9999. -/
def representableDays : Nat := 3652059

/-- A representable instant. -/
structure Instant where
  micros : Nat
  inRange : micros < representableDays * microsPerDay

namespace Clock

/-- Days in each month of a common year, by month number less one. -/
def daysInMonth : List Nat := [31, 28, 31, 30, 31, 30, 31, 31, 30, 31, 30, 31]

/-- Days of a common year before each month, by month number less one. -/
def daysBeforeMonth : List Nat := [0, 31, 59, 90, 120, 151, 181, 212, 243, 273, 304, 334]

/-- Year, month and day of a day counted from zero. The month is estimated from
the day of the year and lowered by one when the estimate is too large. -/
def civil (day : Nat) : Nat × Nat × Nat :=
  let n400 := day / 146097
  let in400 := day % 146097
  let n100 := in400 / 36524
  let in100 := in400 % 36524
  let n4 := in100 / 1461
  let in4 := in100 % 1461
  let n1 := in4 / 365
  let ofYear := in4 % 365
  let year := n400 * 400 + 1 + n100 * 100 + n4 * 4 + n1
  if n1 = 4 ∨ n100 = 4 then (year - 1, 12, 31)
  else
    let leap := n1 = 3 ∧ (n4 ≠ 24 ∨ n100 = 3)
    let estimate := (ofYear + 50) / 32
    let preceding := daysBeforeMonth.getD (estimate - 1) 0 + (if estimate > 2 ∧ leap then 1 else 0)
    if preceding > ofYear then
      let month := estimate - 1
      let before := preceding -
        (daysInMonth.getD (month - 1) 0 + (if month = 2 ∧ leap then 1 else 0))
      (year, month, ofYear - before + 1)
    else (year, estimate, ofYear - preceding + 1)

/-- A decimal number with leading zeros up to a width. -/
def padded (width value : Nat) : String :=
  let digits := (toString value).toList
  String.ofList (List.replicate (width - digits.length) '0' ++ digits)

/-- The text stored for an instant. -/
def utcText (instant : Instant) : String :=
  let date := civil (instant.micros / microsPerDay)
  let ofDay := instant.micros % microsPerDay
  let seconds := ofDay / 1000000
  let fraction := ofDay % 1000000
  padded 4 date.1 ++ "-" ++ padded 2 date.2.1 ++ "-" ++ padded 2 date.2.2 ++ "T" ++
    padded 2 (seconds / 3600) ++ ":" ++ padded 2 (seconds / 60 % 60) ++ ":" ++
    padded 2 (seconds % 60) ++ (if fraction = 0 then "" else "." ++ padded 6 fraction) ++ "Z"

/-- The instant some milliseconds later, if it is representable. -/
def later (instant : Instant) (milliseconds : Int) : Option Instant :=
  let moved : Int := instant.micros + milliseconds * 1000
  if representable : moved.toNat < representableDays * microsPerDay then
    if 0 ≤ moved then some ⟨moved.toNat, representable⟩ else none
  else none

/-- The leap day of the year 2000, half a second after noon. -/
example : utcText ⟨(730178 * 86400 + 43200) * 1000000 + 500000, by decide⟩ =
    "2000-02-29T12:00:00.500000Z" := by decide +kernel

end Clock

end TokenBank
