import BearerAuth.Decimal.Padded
import BearerAuth.Text.Composed

/-!
# Lengths of time

A duration is never negative and has an upper limit, at which sums stop (`Duration.twice`); a
difference stops at zero (`Duration.sub`). A span may be negative.
-/

namespace BearerAuth.Time

def nanosPerSecond : Nat := 1000000000

/-- Durations are shorter than this, in nanoseconds. -/
def durationLimit : Nat := 0x10000000000000000 * nanosPerSecond

/-- A length of time that is not negative. -/
structure Duration where
  nanos : Nat
  nanos_lt : nanos < durationLimit := by decide
  deriving DecidableEq, Repr

namespace Duration

/-- The longest duration that is not longer than `nanos`. -/
def ofNanos (nanos : Nat) : Duration :=
  if h : nanos < durationLimit then ⟨nanos, h⟩ else ⟨durationLimit - 1, by decide⟩

def ofParts (seconds nanos : Nat) : Duration :=
  ofNanos (seconds * nanosPerSecond + nanos)

def ofSeconds (seconds : Nat) : Duration :=
  ofParts seconds 0

def zero : Duration := ⟨0, by decide⟩

def isZero (d : Duration) : Bool :=
  d.nanos = 0

def seconds (d : Duration) : Nat :=
  d.nanos / nanosPerSecond

/-- Nanoseconds beyond whole seconds. -/
def subsecond (d : Duration) : Nat :=
  d.nanos % nanosPerSecond

/-- Twice a duration, or the longest one. -/
def twice (d : Duration) : Duration :=
  ofNanos (2 * d.nanos)

/-- What is left of `d` after `e`, or zero. -/
def sub (d e : Duration) : Duration :=
  ⟨d.nanos - e.nanos, Nat.lt_of_le_of_lt (Nat.sub_le _ _) d.nanos_lt⟩

/-- The fewest whole seconds that are not shorter. -/
def ceilSeconds (d : Duration) : Nat :=
  (d.nanos + (nanosPerSecond - 1)) / nanosPerSecond

/-- A number of units with a fraction of `places` digits. -/
def inUnits (whole fraction places : Nat) (unit : String) : String :=
  let digits := Decimal.fraction places fraction
  whole.repr ++ (if digits.isEmpty then "" else "." ++ String.ofList digits) ++ unit

/-- How a duration is shown: in the largest of seconds, milliseconds, microseconds and nanoseconds
of which it has one. -/
def shown (d : Duration) : String :=
  let n := d.nanos
  if 1000000000 ≤ n then inUnits (n / 1000000000) (n % 1000000000) 9 "s"
  else if 1000000 ≤ n then inUnits (n / 1000000) (n % 1000000) 6 "ms"
  else if 1000 ≤ n then inUnits (n / 1000) (n % 1000) 3 "µs"
  else inUnits n 0 0 "ns"

end Duration

/-- A length of time of either sign. -/
structure Span where
  nanos : Int
  deriving DecidableEq, Repr

namespace Span

def ofParts (seconds nanos : Int) : Span :=
  ⟨seconds * nanosPerSecond + nanos⟩

def ofMinutes (n : Int) : Span :=
  ofParts (60 * n) 0

/-- Whole seconds, toward zero. -/
def seconds (s : Span) : Int :=
  s.nanos.tdiv nanosPerSecond

/-- Nanoseconds beyond whole seconds, with the sign of the span. -/
def subsecond (s : Span) : Int :=
  s.nanos.tmod nanosPerSecond

def shown (s : Span) : String :=
  Text.composed "SignedDuration"
    [("seconds", s.seconds.repr), ("nanoseconds", s.subsecond.repr)]

end Span

end BearerAuth.Time
