import BearerAuth.Json.Kind
import BearerAuth.Json.Value
import BearerAuth.Time.Instant

/-!
# Milliseconds since the epoch

A timestamp is an instant in universal time that is written as its count of whole milliseconds,
rounded down, and shown as a date and time of the internet profile. It keeps its nanoseconds, which
count when timestamps are compared.
-/

namespace BearerAuth.Time

/-- Nanoseconds in a millisecond. -/
def nanosPerMilli : Nat := 1000000

/-- An instant in universal time. -/
structure UnixMillis where
  instant : Instant
  offset_eq : instant.offset = 0

namespace UnixMillis

/-- The timestamp with the given count of nanoseconds, if its date is in range. -/
def ofNanos? (nanos : Int) : Option UnixMillis :=
  if h : firstNano ≤ nanos + 0 * nanosPerSecond ∧ nanos + 0 * nanosPerSecond ≤ lastNano then
    some ⟨⟨nanos, 0, h.1, h.2⟩, rfl⟩
  else none

/-- The timestamp of an instant. None if its date in universal time is out of range, as it may be
near the ends of the range when its local date is not; then there is no result at all, and
`outOfDates` is the message of that abnormal end. -/
def ofInstant? (t : Instant) : Option UnixMillis :=
  ofNanos? t.nanos

/-- The timestamp of a count of milliseconds, if its date is in range. -/
def ofMillis? (millis : Int64) : Option UnixMillis :=
  ofNanos? (millis.toInt * nanosPerMilli)

def outOfDates : String := "local datetime out of valid range"

/-- What is said of a count that is out of range. -/
def outOfRange : String := "timestamp was not in range"

/-- Nanoseconds since the epoch. -/
def nanos (t : UnixMillis) : Int :=
  t.instant.nanos

/-- Whole milliseconds since the epoch, rounded down. -/
def millis (t : UnixMillis) : Int64 :=
  Int64.ofInt (t.nanos / nanosPerMilli)

/-- How a timestamp is shown, for years of four digits. -/
def shown? (t : UnixMillis) : Option String :=
  let i := t.instant
  if 0 ≤ i.date.year ∧ i.date.year ≤ 9999 then
    let fraction := Decimal.fraction 9 i.subsecond
    some (String.ofList (Instant.shownDate i.date ++ 'T' :: Decimal.padded 2 (i.secondOfDay / 3600)
      ++ Instant.shownMinutes i.secondOfDay
      ++ (if fraction.isEmpty then [] else '.' :: fraction) ++ ['Z']))
  else none

def toJson (t : UnixMillis) : Json.Value :=
  .integer t.millis.toInt

def read : Json.Reader UnixMillis := do
  let millis ← Json.readInt64
  match ofMillis? millis with
  | some t => return t
  | none => Json.Reader.refuse (.unacceptable outOfRange)

/-- Whether one timestamp comes before another. -/
def isBefore (t u : UnixMillis) : Bool :=
  t.nanos < u.nanos

end UnixMillis

end BearerAuth.Time
