import Accounts.Time.Calendar
import Accounts.Toml.Reader

/-!
# Dates and times of TOML

A date, a time of day, or both, in which case an offset from universal time may follow. They are
written back in one form: a capital letter between date and time, as many places of a second as are
needed, and `Z` where it stood.
-/

namespace Accounts.Toml

structure TimeOfDay where
  hour : Nat
  minute : Nat
  second : Nat
  /-- Digits of the fraction of a second: nine at most, the last one not zero. -/
  fraction : List Char
deriving DecidableEq, Repr

/-- An offset from universal time. -/
inductive Offset where
  | zulu
  | hours (negative : Bool) (hour minute : Nat)
deriving DecidableEq, Repr

/-- A date, a time, or both. -/
inductive Moment where
  | date (date : Time.Date)
  | time (time : TimeOfDay)
  | dateTime (date : Time.Date) (time : TimeOfDay) (offset : Option Offset)
deriving DecidableEq, Repr

/-- A number in decimal with at least `width` digits. -/
def padded (width n : Nat) : String :=
  let text := toString n
  String.ofList (List.replicate (width - text.length) '0') ++ text

def dateText (d : Time.Date) : String :=
  padded 4 d.year.toNat ++ "-" ++ padded 2 d.month ++ "-" ++ padded 2 d.day

def TimeOfDay.text (t : TimeOfDay) : String :=
  padded 2 t.hour ++ ":" ++ padded 2 t.minute ++ ":" ++ padded 2 t.second ++
    (if t.fraction.isEmpty then "" else "." ++ String.ofList t.fraction)

/-- The text of an offset. The offset zero is positive. -/
def Offset.text : Offset → String
  | zulu => "Z"
  | hours negative hour minute =>
    (if negative && (hour != 0 || minute != 0) then "-" else "+") ++
      padded 2 hour ++ ":" ++ padded 2 minute

/-- The text of a date, a time, or both. -/
def Moment.text : Moment → String
  | date d => dateText d
  | time t => t.text
  | dateTime d t offset => dateText d ++ "T" ++ t.text ++ ((offset.map Offset.text).getD "")

def daysIn (year month : Nat) : Nat :=
  let leap := year % 4 == 0 && (year % 100 != 0 || year % 400 == 0)
  match month with
  | 2 => if leap then 29 else 28
  | 4 | 6 | 9 | 11 => 30
  | _ => 31

namespace Reader

/-- A number in a given number of digits that lies in a range. -/
def digitsWithin (width low high : Nat) : Reader Nat := do
  let ds ← exactly Char.isDigit width
  let n := ds.foldl (fun n c => n * 10 + (c.toNat - '0'.toNat)) 0
  if low ≤ n && n ≤ high then pure n else failure

def date : Reader Time.Date := do
  let year ← digitsWithin 4 0 9999
  char '-'
  let month ← digitsWithin 2 1 12
  char '-'
  let day ← digitsWithin 2 1 31
  if day ≤ daysIn year month then pure ⟨year, month, day⟩ else failure

/-- The fraction of a second. Digits beyond the ninth do not count. -/
def secondFraction : Reader (List Char) := do
  char '.'
  let first ← satisfy Char.isDigit
  let ds := (first :: (← takeWhile Char.isDigit)).take 9
  pure (ds.reverse.dropWhile (· == '0')).reverse

def timeOfDay : Reader TimeOfDay := do
  let hour ← digitsWithin 2 0 23
  char ':'
  let minute ← digitsWithin 2 0 59
  char ':'
  let second ← digitsWithin 2 0 60
  pure ⟨hour, minute, second, (← optional secondFraction).getD []⟩

def offset : Reader Offset := do
  match ← satisfy fun c => ['Z', 'z', '+', '-'].contains c with
  | 'Z' | 'z' => pure .zulu
  | c => do
    let hour ← digitsWithin 2 0 23
    char ':'
    pure (.hours (c == '-') hour (← digitsWithin 2 0 59))

/-- The time after a date. -/
def timeAfterDate : Reader (TimeOfDay × Option Offset) := do
  let _ ← satisfy fun c => ['T', 't', ' '].contains c
  let time ← timeOfDay
  pure (time, ← optional offset)

/-- A date, a time, or both. -/
def moment : Reader Moment := (do
    let d ← date
    match ← optional timeAfterDate with
    | some (t, o) => pure (.dateTime d t o)
    | none => pure (.date d)) <|>
  (do pure (.time (← timeOfDay)))

end Reader

end Accounts.Toml
