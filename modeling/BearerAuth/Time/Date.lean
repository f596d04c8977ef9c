/-!
# Gregorian dates

Days are counted from the first of January 1970. A year is taken to begin in March here, so that
the day that leap years have more is its last; 400 years are always 146097 days.
-/

namespace BearerAuth.Time

/-- A date of the Gregorian calendar, continued to all years. -/
structure Date where
  year : Int
  month : Nat
  day : Nat
  deriving DecidableEq, Repr

namespace Date

/-- Days from the first of March of year zero to the first of January 1970. -/
def epoch : Int := 719468

/-- Days in 400 years. -/
def cycle : Nat := 146097

/-- Days from the first of March to the first day of the month that is `m` months later. -/
def monthStart (m : Nat) : Nat :=
  (153 * m + 2) / 5

/-- Days from the start of a cycle to the start of its year `y`. -/
def yearStart (y : Nat) : Nat :=
  365 * y + y / 4 - y / 100

/-- The year of a cycle in which its day `d` lies. -/
def yearOfDay (d : Nat) : Nat :=
  (d - d / 1460 + d / 36524 - d / 146096) / 365

def ofDays (days : Int) : Date :=
  let shifted := days + epoch
  let cycles := shifted / cycle
  let d := (shifted % cycle).toNat
  let y := yearOfDay d
  let d := d - yearStart y
  let m := (5 * d + 2) / 153
  let late := 10 ≤ m
  ⟨cycles * 400 + y + (if late then 1 else 0), if late then m - 9 else m + 3,
    d - monthStart m + 1⟩

end Date

end BearerAuth.Time
