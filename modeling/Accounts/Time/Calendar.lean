/-!
# The calendar

Dates of the proleptic Gregorian calendar as numbers of days since 1970-01-01, and the range of
times that this library can write down: the years -262143 to 262142.
-/

namespace Accounts.Time

structure Date where
  year : Int
  month : Nat
  day : Nat
deriving DecidableEq, Repr

namespace Date

/-- Days from 1970-01-01 to a date. Years are counted from March, so that a leap day is the last day
of its year; 400 years have 146097 days. -/
def toDays (d : Date) : Int :=
  let year := if d.month ≤ 2 then d.year - 1 else d.year
  let era := year / 400
  let yearOfEra := year % 400
  let monthFromMarch : Int := (d.month + 9) % 12
  let dayOfYear := (153 * monthFromMarch + 2) / 5 + d.day - 1
  let dayOfEra := yearOfEra * 365 + yearOfEra / 4 - yearOfEra / 100 + dayOfYear
  era * 146097 + dayOfEra - 719468

/-- The date a number of days after 1970-01-01. -/
def ofDays (days : Int) : Date :=
  let shifted := days + 719468
  let era := shifted / 146097
  let dayOfEra := shifted % 146097
  let yearOfEra :=
    (dayOfEra - dayOfEra / 1460 + dayOfEra / 36524 - dayOfEra / 146096) / 365
  let dayOfYear := dayOfEra - (365 * yearOfEra + yearOfEra / 4 - yearOfEra / 100)
  let monthFromMarch := (5 * dayOfYear + 2) / 153
  let day := dayOfYear - (153 * monthFromMarch + 2) / 5 + 1
  let month := if monthFromMarch < 10 then monthFromMarch + 3 else monthFromMarch - 9
  let year := yearOfEra + era * 400
  ⟨if month ≤ 2 then year + 1 else year, month.toNat, day.toNat⟩

end Date

def secondsPerDay : Int := 86400

/-- The first second of the calendar. -/
def firstSecond : Int := (Date.toDays ⟨-262143, 1, 1⟩) * secondsPerDay

/-- The last second of the calendar. -/
def lastSecond : Int := (Date.toDays ⟨262143, 1, 1⟩) * secondsPerDay - 1

/-- Whether a number of seconds since 1970-01-01 lies within the calendar. -/
def InCalendar (seconds : Int) : Prop := firstSecond ≤ seconds ∧ seconds ≤ lastSecond

instance (seconds : Int) : Decidable (InCalendar seconds) :=
  inferInstanceAs (Decidable (_ ∧ _))

/-! ## Text -/

/-- A number with at least `width` digits. -/
def padded (width n : Nat) : String :=
  let digits := Nat.toDigits 10 n
  String.ofList (List.replicate (width - digits.length) '0' ++ digits)

/-- A year: four digits, or a sign and at least four digits outside 0 to 9999. -/
def yearText (year : Int) : String :=
  if 0 ≤ year ∧ year ≤ 9999 then padded 4 year.toNat
  else (if year < 0 then "-" else "+") ++ padded 4 year.natAbs

/-- The fraction of a second in nanoseconds: none, or 3, 6 or 9 digits, the fewest that are
exact. -/
def fractionText (nanoseconds : Nat) : String :=
  if nanoseconds = 0 then ""
  else if nanoseconds % 1000000 = 0 then "." ++ padded 3 (nanoseconds / 1000000)
  else if nanoseconds % 1000 = 0 then "." ++ padded 6 (nanoseconds / 1000)
  else "." ++ padded 9 nanoseconds

/-- A time in the form of RFC 3339, with the given mark for the offset zero. -/
def rfc3339 (seconds : Int) (nanoseconds : Nat) (offset : String) : String :=
  let date := Date.ofDays (seconds / secondsPerDay)
  let second := (seconds % secondsPerDay).toNat
  yearText date.year ++ "-" ++ padded 2 date.month ++ "-" ++ padded 2 date.day ++ "T" ++
    padded 2 (second / 3600) ++ ":" ++ padded 2 (second / 60 % 60) ++ ":" ++
    padded 2 (second % 60) ++ fractionText nanoseconds ++ offset

end Accounts.Time
