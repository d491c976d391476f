import Accounts.Time.Calendar

/-!
# Instants and spans

Readings of a clock and signed lengths of time, both exact to the nanosecond. Adding a span to an
instant fails outside the calendar, and a span of minutes or hours fails when its milliseconds
exceed 64 bits.
-/

namespace Accounts.Time

def nanosPerSecond : Int := 1000000000

/-- A length of time. -/
structure Span where
  nanoseconds : Int
deriving DecidableEq, Repr

/-- A reading of a clock, in nanoseconds since 1970-01-01. -/
structure Instant where
  nanoseconds : Int
deriving DecidableEq, Repr

/-- Results that no span or instant can hold. -/
inductive Overflow where
  | minutes
  | hours
  | sum
deriving DecidableEq, Repr

def Overflow.message : Overflow → String
  | minutes => "TimeDelta::minutes out of bounds"
  | hours => "TimeDelta::hours out of bounds"
  | sum => "`DateTime + TimeDelta` overflowed"

namespace Span

/-- The most seconds a span may have: its milliseconds fit 64 bits. -/
def maxSeconds : Int := 9223372036854775807 / 1000

def ofSeconds (n : Int) : Span := ⟨n * nanosPerSecond⟩

def ofMilliseconds (n : Int) : Span := ⟨n * 1000000⟩

/-- A span of whole minutes. -/
def ofMinutes? (n : Int) : Except Overflow Span :=
  if -maxSeconds ≤ n * 60 ∧ n * 60 ≤ maxSeconds then .ok (ofSeconds (n * 60))
  else .error .minutes

/-- A span of whole hours. -/
def ofHours? (n : Int) : Except Overflow Span :=
  if -maxSeconds ≤ n * 3600 ∧ n * 3600 ≤ maxSeconds then .ok (ofSeconds (n * 3600))
  else .error .hours

/-- The whole seconds of a span, rounded toward zero. -/
def wholeSeconds (s : Span) : Int := s.nanoseconds.tdiv nanosPerSecond

end Span

namespace Instant

/-- The first instant of a second. -/
def ofSeconds (n : Int) : Instant := ⟨n * nanosPerSecond⟩

def ofMilliseconds (n : Int) : Instant := ⟨n * 1000000⟩

def ofMicroseconds (n : Int) : Instant := ⟨n * 1000⟩

/-- The second in which an instant lies. -/
def timestamp (t : Instant) : Int := t.nanoseconds / nanosPerSecond

/-- The instant a span after another. -/
def add (t : Instant) (s : Span) : Except Overflow Instant :=
  let sum : Instant := ⟨t.nanoseconds + s.nanoseconds⟩
  if InCalendar sum.timestamp then .ok sum else .error .sum

/-- The instant in the form of RFC 3339. -/
def rfc3339 (t : Instant) (offset : String) : String :=
  Time.rfc3339 t.timestamp (t.nanoseconds % nanosPerSecond).toNat offset

end Instant

/-! ## The text of a span -/

/-- Decimal digits without zeros at the end. -/
def stripZeros (digits : List Char) : List Char :=
  (digits.reverse.dropWhile (· == '0')).reverse

/-- A number of units with its fraction, of which `places` digits are kept. -/
def unitText (whole fraction places : Nat) (unit : String) : String :=
  let digits := stripZeros (padded places fraction).toList
  toString whole ++ (if digits.isEmpty then "" else "." ++ String.ofList digits) ++ unit

/-- A length of time in the largest unit of which it has at least one. -/
def durationText (nanoseconds : Nat) : String :=
  if 1000000000 ≤ nanoseconds then
    unitText (nanoseconds / 1000000000) (nanoseconds % 1000000000) 9 "s"
  else if 1000000 ≤ nanoseconds then
    unitText (nanoseconds / 1000000) (nanoseconds % 1000000) 6 "ms"
  else if 1000 ≤ nanoseconds then
    unitText (nanoseconds / 1000) (nanoseconds % 1000) 3 "µs"
  else toString nanoseconds ++ "ns"

end Accounts.Time
