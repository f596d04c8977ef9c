import BearerAuth.Time.Date
import BearerAuth.Time.Duration

/-!
# Instants

An instant is a count of nanoseconds since the Unix epoch, together with the offset from universal
time at which it is shown. Its local date lies in the years from -9999 to 9999, so that a sum may
fail (`Instant.add?`). Instants are compared by their counts alone (`Instant.isBefore`).
-/

namespace BearerAuth.Time

def secondsPerDay : Nat := 86400

/-- The first nanosecond of the year -9999. -/
def firstNano : Int := -377705116800 * nanosPerSecond

/-- The last nanosecond of the year 9999. -/
def lastNano : Int := 253402300800 * nanosPerSecond - 1

/-- Offsets are of less than 26 hours, in seconds. -/
def offsetLimit : Nat := 93600

/-- A distance from universal time, to the east if it is positive. -/
structure Offset where
  seconds : Int
  natAbs_lt : seconds.natAbs < offsetLimit
  deriving DecidableEq

instance : OfNat Offset 0 := ⟨⟨0, by decide⟩⟩

def Offset.ofSeconds? (seconds : Int) : Option Offset :=
  if h : seconds.natAbs < offsetLimit then some ⟨seconds, h⟩ else none

/-- A moment, with the offset at which it is shown. -/
structure Instant where
  nanos : Int
  zone : Offset
  first_le : firstNano ≤ nanos + zone.seconds * nanosPerSecond
  le_last : nanos + zone.seconds * nanosPerSecond ≤ lastNano
  deriving DecidableEq

namespace Instant

/-- The offset in seconds. -/
def offset (t : Instant) : Int :=
  t.zone.seconds

/-- The instant with the given count at an offset, if its local date is in range. -/
def inZone? (nanos : Int) (zone : Offset) : Option Instant :=
  if h : firstNano ≤ nanos + zone.seconds * nanosPerSecond ∧
      nanos + zone.seconds * nanosPerSecond ≤ lastNano then
    some ⟨nanos, zone, h.1, h.2⟩
  else none

/-- The instant with the given count and offset, if both are in range. -/
def ofNanos? (nanos offset : Int) : Option Instant :=
  (Offset.ofSeconds? offset).bind (inZone? nanos)

/-- The instant a span later, at the same offset. -/
def add? (t : Instant) (s : Span) : Option Instant :=
  inZone? (t.nanos + s.nanos) t.zone

theorem nanos_of_add? {t u : Instant} {s : Span} (h : t.add? s = some u) :
    u.nanos = t.nanos + s.nanos := by
  unfold add? inZone? at h
  split at h
  · cases h
    rfl
  · cases h

/-- Whether one instant comes before another. -/
def isBefore (t u : Instant) : Bool :=
  t.nanos < u.nanos

/-- Whether two instants are the same moment, whatever their offsets. -/
def isSame (t u : Instant) : Bool :=
  t.nanos = u.nanos

/-- Whole seconds since the epoch, rounded down. -/
def unixSeconds (t : Instant) : Int :=
  t.nanos / nanosPerSecond

/-- The seconds of any instant are an integer of 64 bits. -/
theorem toInt_ofInt_unixSeconds (t : Instant) :
    (Int64.ofInt t.unixSeconds).toInt = t.unixSeconds := by
  have hfirst := t.first_le
  have hlast := t.le_last
  have hzone := t.zone.natAbs_lt
  simp only [firstNano, lastNano, offsetLimit, nanosPerSecond] at hfirst hlast hzone
  apply Int64.toInt_ofInt_of_le <;> simp only [unixSeconds, nanosPerSecond] <;> omega

def localNanos (t : Instant) : Int :=
  t.nanos + t.offset * nanosPerSecond

def localSeconds (t : Instant) : Int :=
  t.localNanos / nanosPerSecond

def date (t : Instant) : Date :=
  .ofDays (t.localSeconds / secondsPerDay)

/-- Seconds since local midnight. -/
def secondOfDay (t : Instant) : Nat :=
  (t.localSeconds % secondsPerDay).toNat

/-- Nanoseconds beyond whole seconds. -/
def subsecond (t : Instant) : Nat :=
  (t.localNanos % nanosPerSecond).toNat

/-- A year of at least four digits. -/
def shownYear (year : Int) : List Char :=
  (if year < 0 then ['-'] else []) ++ Decimal.padded 4 year.natAbs

/-- A date, most significant part first. -/
def shownDate (d : Date) : List Char :=
  shownYear d.year ++ '-' :: Decimal.padded 2 d.month ++ '-' :: Decimal.padded 2 d.day

/-- Minutes and seconds of an hour, after a colon each. -/
def shownMinutes (seconds : Nat) : List Char :=
  ':' :: Decimal.padded 2 (seconds / 60 % 60) ++ ':' :: Decimal.padded 2 (seconds % 60)

/-- An offset, with its sign. -/
def shownOffset (offset : Int) : List Char :=
  (if offset < 0 then '-' else '+') ::
    (Decimal.padded 2 (offset.natAbs / 3600) ++ shownMinutes offset.natAbs)

/-- How an instant is shown: local date, local time with a fraction, and offset. -/
def shown (t : Instant) : String :=
  let fraction := Decimal.fraction 9 t.subsecond
  String.ofList (shownDate t.date ++ ' ' :: Decimal.padded 1 (t.secondOfDay / 3600)
    ++ shownMinutes t.secondOfDay ++ '.' :: (if fraction.isEmpty then ['0'] else fraction)
    ++ ' ' :: shownOffset t.offset)

end Instant

end BearerAuth.Time
