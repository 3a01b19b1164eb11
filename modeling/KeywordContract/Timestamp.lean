/-!
# Points in time

A point in time counts the nanoseconds since the start of 1970, and is written as a date and a
time of day in UTC.

## Main definitions

* `Timestamp`, `Timestamp.text`.
* `civilDate`: the date of a day.
* `Timing`, `Clock m`: when something started and how long it took.
-/

namespace KeywordContract

structure Timestamp where
  nanoseconds : Int
deriving DecidableEq

/-- Year, month and day of the day that comes `days` days after 1 January 1970. Years are taken
to start in March, so that the day that a leap year adds is the last one; 146097 days make four
hundred years. -/
def civilDate (days : Int) : Int × Int × Int :=
  let shifted := days + 719468
  let era := shifted.fdiv 146097
  let dayOfEra := shifted.fmod 146097
  let yearOfEra :=
    (dayOfEra - dayOfEra / 1460 + dayOfEra / 36524 - dayOfEra / 146096) / 365
  let dayOfYear := dayOfEra - (365 * yearOfEra + yearOfEra / 4 - yearOfEra / 100)
  let shiftedMonth := (5 * dayOfYear + 2) / 153
  let day := dayOfYear - (153 * shiftedMonth + 2) / 5 + 1
  let month := if shiftedMonth < 10 then shiftedMonth + 3 else shiftedMonth - 9
  let year := yearOfEra + era * 400 + (if month ≤ 2 then 1 else 0)
  (year, month, day)

/-- A number with zeros before it, up to a width. -/
def padded (width : Nat) (n : Int) : String :=
  let digits := Nat.toDigits 10 n.natAbs
  String.ofList (List.replicate (width - digits.length) '0' ++ digits)

/-- The fraction of a second in groups of three digits, as many as it takes. -/
def fractionText (nanoseconds : Int) : String :=
  if nanoseconds = 0 then ""
  else if nanoseconds % 1000000 = 0 then "." ++ padded 3 (nanoseconds / 1000000)
  else if nanoseconds % 1000 = 0 then "." ++ padded 6 (nanoseconds / 1000)
  else "." ++ padded 9 nanoseconds

namespace Timestamp

def ofSeconds (seconds : Int) : Timestamp := ⟨seconds * 1000000000⟩

def text (t : Timestamp) : String :=
  let seconds := t.nanoseconds.fdiv 1000000000
  let (year, month, day) := civilDate (seconds.fdiv 86400)
  let second := seconds.fmod 86400
  padded 4 year ++ "-" ++ padded 2 month ++ "-" ++ padded 2 day ++ "T" ++
    padded 2 (second / 3600) ++ ":" ++ padded 2 (second / 60 % 60) ++ ":" ++
    padded 2 (second % 60) ++ fractionText (t.nanoseconds.fmod 1000000000) ++ "Z"

end Timestamp

/-- When something started and how long it took. -/
structure Timing where
  start : Timestamp
  elapsedMs : Nat
deriving DecidableEq

/-- Tells the date and time, and counts milliseconds from any start. -/
structure Clock (m : Type → Type) where
  now : m Timestamp
  milliseconds : m Nat

/-- Does something and takes the time. -/
def Clock.time {m : Type → Type} [Monad m] {α : Type} (clock : Clock m) (action : m α) :
    m (α × Timing) := do
  let start ← clock.now
  let before ← clock.milliseconds
  let result ← action
  let after ← clock.milliseconds
  return (result, ⟨start, after - before⟩)

end KeywordContract
