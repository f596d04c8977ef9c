import BearerAuth.Proofs.Decimal.Padded
import BearerAuth.Proofs.Time.Milliseconds
import Mathlib.Data.Rat.Cast.Order
import Mathlib.Tactic.FieldSimp
import Mathlib.Tactic.NormNum
import Mathlib.Tactic.Ring

/-!
# The internet profile of dates and times

A date and time of the profile (RFC 3339), here in universal time and without leap seconds, is read
from four digits of the year, two of each other part, and a fraction of a second of any length
(`DateTime.read?`), and stands for a moment (`DateTime.moment`). What is shown for a timestamp is
read as one that stands for its very moment (`read?_shown`), so that no two moments are shown alike
(`shown_names_moment`).
-/

namespace BearerAuth.Time

/-- A number of just so many digits. -/
def readNumber? (width : Nat) (s : List Char) : Option (Nat × List Char) :=
  if (s.take width).length = width ∧ (s.take width).all Char.isDigit then
    some (Nat.ofDigitChars 10 (s.take width) 0, s.drop width)
  else none

def readMark? (mark : Char) : List Char → Option (List Char)
  | [] => none
  | c :: s => if c = mark then some s else none

/-- The digits after a point, at least one, or none without a point. -/
def readFraction? : List Char → Option (List Char × List Char)
  | '.' :: s =>
    if (s.takeWhile Char.isDigit).isEmpty then none
    else some (s.takeWhile Char.isDigit, s.dropWhile Char.isDigit)
  | s => some ([], s)

/-- A date and time in universal time, with the digits of the fraction of a second. -/
structure DateTime where
  date : Date
  hour : Nat
  minute : Nat
  second : Nat
  fraction : List Char

namespace DateTime

structure IsValid (d : DateTime) : Prop where
  date : d.date.IsValid
  year_nonneg : 0 ≤ d.date.year
  year_le : d.date.year ≤ 9999
  hour_lt : d.hour < 24
  minute_lt : d.minute < 60
  second_lt : d.second < 60
  fraction : d.fraction.all Char.isDigit = true

instance (d : DateTime) : Decidable d.IsValid :=
  decidable_of_iff (d.date.IsValid ∧ 0 ≤ d.date.year ∧ d.date.year ≤ 9999 ∧ d.hour < 24
      ∧ d.minute < 60 ∧ d.second < 60 ∧ d.fraction.all Char.isDigit = true)
    ⟨fun ⟨h, h₁, h₂, h₃, h₄, h₅, h₆⟩ => ⟨h, h₁, h₂, h₃, h₄, h₅, h₆⟩,
      fun ⟨h, h₁, h₂, h₃, h₄, h₅, h₆⟩ => ⟨h, h₁, h₂, h₃, h₄, h₅, h₆⟩⟩

def read? (s : List Char) : Option DateTime := do
  let (year, s) ← readNumber? 4 s
  let s ← readMark? '-' s
  let (month, s) ← readNumber? 2 s
  let s ← readMark? '-' s
  let (day, s) ← readNumber? 2 s
  let s ← readMark? 'T' s
  let (hour, s) ← readNumber? 2 s
  let s ← readMark? ':' s
  let (minute, s) ← readNumber? 2 s
  let s ← readMark? ':' s
  let (second, s) ← readNumber? 2 s
  let (fraction, s) ← readFraction? s
  let d : DateTime := ⟨⟨year, month, day⟩, hour, minute, second, fraction⟩
  if d.IsValid ∧ s = ['Z'] then some d else none

/-- Seconds since the epoch. -/
def moment (d : DateTime) : Rat :=
  (d.date.ordinal * secondsPerDay + d.hour * 3600 + d.minute * 60 + d.second : Int)
    + (Nat.ofDigitChars 10 d.fraction 0 : Rat) / 10 ^ d.fraction.length

/-- The written form of a date and time. -/
def write (d : DateTime) : List Char :=
  Instant.shownDate d.date ++ 'T' :: Decimal.padded 2 d.hour
    ++ (':' :: Decimal.padded 2 d.minute ++ ':' :: Decimal.padded 2 d.second)
    ++ (if d.fraction.isEmpty then [] else '.' :: d.fraction) ++ ['Z']

end DateTime

theorem readNumber?_padded {width n : Nat} (hpos : 0 < width) (h : n < 10 ^ width)
    (s : List Char) : readNumber? width (Decimal.padded width n ++ s) = some (n, s) := by
  have hlength := Decimal.length_padded hpos h
  have htake : (Decimal.padded width n ++ s).take width = Decimal.padded width n :=
    List.take_left' hlength
  have hdrop : (Decimal.padded width n ++ s).drop width = s := List.drop_left' hlength
  have hdigits : (Decimal.padded width n).all Char.isDigit = true :=
    List.all_eq_true.2 (Decimal.isDigit_of_mem_padded width n)
  unfold readNumber?
  rw [htake, hdrop, if_pos ⟨hlength, hdigits⟩, Decimal.ofDigitChars_padded]

theorem readMark?_cons (mark : Char) (s : List Char) : readMark? mark (mark :: s) = some s :=
  if_pos rfl

theorem readFraction?_zulu {digits : List Char} (h : digits.all Char.isDigit = true) :
    readFraction? ((if digits.isEmpty then [] else '.' :: digits) ++ ['Z'])
      = some (digits, ['Z']) := by
  cases digits with
  | nil => rfl
  | cons c digits =>
    have htake : (c :: digits ++ ['Z']).takeWhile Char.isDigit = c :: digits := by
      rw [List.takeWhile_append_of_pos (List.all_eq_true.1 h)]
      exact List.append_nil _
    have hdrop : (c :: digits ++ ['Z']).dropWhile Char.isDigit = ['Z'] :=
      List.dropWhile_append_of_pos (List.all_eq_true.1 h)
    show readFraction? ('.' :: (c :: digits ++ ['Z'])) = _
    unfold readFraction?
    simp only [htake, hdrop, List.isEmpty_cons, Bool.false_eq_true, if_false]

namespace DateTime

theorem read?_write {d : DateTime} (h : d.IsValid) : read? d.write = some d := by
  have hyear : d.date.year.natAbs < 10 ^ 4 := by
    have := h.year_nonneg
    have := h.year_le
    omega
  have hmonth : d.date.month < 10 ^ 2 := by
    have := h.date.month_le
    omega
  have hday : d.date.day < 10 ^ 2 := by
    have := h.date.day_le
    have := Date.monthLength_le d.date.year d.date.month
    omega
  have hhour : d.hour < 10 ^ 2 := Nat.lt_trans h.hour_lt (by decide)
  have hminute : d.minute < 10 ^ 2 := Nat.lt_trans h.minute_lt (by decide)
  have hsecond : d.second < 10 ^ 2 := Nat.lt_trans h.second_lt (by decide)
  have hsign : ¬ d.date.year < 0 := Int.not_lt.2 h.year_nonneg
  have hcast : (d.date.year.natAbs : Int) = d.date.year := Int.natAbs_of_nonneg h.year_nonneg
  unfold write Instant.shownDate Instant.shownYear read?
  simp only [hsign, if_false, List.nil_append, List.append_assoc, List.cons_append,
    readNumber?_padded (by decide : 0 < 4) hyear, readNumber?_padded (by decide : 0 < 2) hmonth,
    readNumber?_padded (by decide : 0 < 2) hday, readNumber?_padded (by decide : 0 < 2) hhour,
    readNumber?_padded (by decide : 0 < 2) hminute, readNumber?_padded (by decide : 0 < 2) hsecond,
    readMark?_cons, readFraction?_zulu h.fraction, Option.bind_eq_bind, Option.bind_some, hcast]
  exact if_pos ⟨h, trivial⟩

example : (read? "1985-04-12T23:20:50.52Z".toList).map moment = some (482196050 + 52 / 100) := by
  rfl

end DateTime

theorem cast_nanosPerSecond_ne_zero : (nanosPerSecond : Rat) ≠ 0 := by
  norm_num [nanosPerSecond]

/-- The digits of a fraction of a second, after the point, are its nanoseconds. -/
theorem fraction_div {n : Nat} (h : n < 10 ^ 9) :
    (Nat.ofDigitChars 10 (Decimal.fraction 9 n) 0 : Rat) / 10 ^ (Decimal.fraction 9 n).length
      = (n : Rat) / nanosPerSecond := by
  obtain ⟨k, hwidth, hvalue⟩ := Decimal.ofDigitChars_fraction (by decide : 0 < 9) h
  generalize Nat.ofDigitChars 10 (Decimal.fraction 9 n) 0 = value at *
  generalize (Decimal.fraction 9 n).length = places at *
  have hsecond : (nanosPerSecond : Rat) = 10 ^ places * 10 ^ k := by
    rw [← pow_add, ← hwidth]
    norm_num [nanosPerSecond]
  rw [hsecond, hvalue]
  push_cast
  field_simp

namespace UnixMillis

variable (u : UnixMillis)

/-- The date and time of a timestamp. -/
def dateTime : DateTime :=
  ⟨u.instant.date, u.instant.secondOfDay / 3600, u.instant.secondOfDay / 60 % 60,
    u.instant.secondOfDay % 60, Decimal.fraction 9 u.instant.subsecond⟩

theorem localNanos_eq : u.instant.localNanos = u.nanos := by
  unfold Instant.localNanos
  rw [u.offset_eq, Int.zero_mul, Int.add_zero]
  rfl

theorem covers_date : u.instant.date.Covers u.nanos := by
  rw [Date.covers_iff, ← localNanos_eq]
  rfl

theorem fallsWithin_years_iff {first last : Int} :
    FallsWithin first last u.nanos ↔ first ≤ u.instant.date.year ∧ u.instant.date.year ≤ last := by
  rw [fallsWithin_iff, Date.covers_iff.1 u.covers_date]

theorem shown?_eq : u.shown? = if 0 ≤ u.instant.date.year ∧ u.instant.date.year ≤ 9999 then
    some (String.ofList u.dateTime.write) else none := rfl

theorem shown?_eq_some_iff {text : String} : u.shown? = some text ↔
    FallsWithin 0 9999 u.nanos ∧ text = String.ofList u.dateTime.write := by
  rw [shown?_eq, fallsWithin_years_iff]
  by_cases hyears : 0 ≤ u.instant.date.year ∧ u.instant.date.year ≤ 9999
  · rw [if_pos hyears, Option.some.injEq, eq_comm, and_iff_right hyears]
  · rw [if_neg hyears]
    simp [hyears]

theorem isValid_dateTime (h : FallsWithin 0 9999 u.nanos) : u.dateTime.IsValid := by
  obtain ⟨hfirst, hlast⟩ := u.fallsWithin_years_iff.1 h
  have hday : u.instant.secondOfDay < 86400 := by
    unfold Instant.secondOfDay secondsPerDay
    omega
  exact {
    date := u.covers_date.1
    year_nonneg := hfirst
    year_le := hlast
    hour_lt := Nat.div_lt_of_lt_mul hday
    minute_lt := Nat.mod_lt _ (by decide)
    second_lt := Nat.mod_lt _ (by decide)
    fraction := List.all_eq_true.2 (Decimal.isDigit_of_mem_fraction 9 u.instant.subsecond) }

theorem seconds_dateTime : u.dateTime.date.ordinal * secondsPerDay + u.dateTime.hour * 3600
    + u.dateTime.minute * 60 + u.dateTime.second = u.instant.localSeconds := by
  have hdate : u.instant.date.ordinal = u.instant.localSeconds / secondsPerDay :=
    Date.ordinal_ofDays _
  simp only [dateTime, hdate]
  unfold Instant.secondOfDay secondsPerDay
  omega

/-- The date and time of a timestamp stands for its moment. -/
theorem moment_dateTime : u.dateTime.moment = (u.nanos : Rat) / nanosPerSecond := by
  have hsub : u.instant.subsecond < 10 ^ 9 := by
    unfold Instant.subsecond nanosPerSecond
    omega
  have hnanos : u.nanos = u.instant.localSeconds * nanosPerSecond + u.instant.subsecond := by
    rw [← localNanos_eq]
    unfold Instant.localSeconds Instant.subsecond nanosPerSecond
    omega
  have hpos := cast_nanosPerSecond_ne_zero
  have hfraction := fraction_div hsub
  unfold DateTime.moment
  rw [seconds_dateTime, hnanos]
  calc (u.instant.localSeconds : Rat) + (Nat.ofDigitChars 10 u.dateTime.fraction 0 : Rat)
        / 10 ^ u.dateTime.fraction.length
      = u.instant.localSeconds + u.instant.subsecond / nanosPerSecond := by
        rw [← hfraction]
        rfl
    _ = ((u.instant.localSeconds * nanosPerSecond + u.instant.subsecond : Int) : Rat)
        / nanosPerSecond := by
        push_cast
        field_simp

/-- What is shown for a timestamp is read as a date and time that stands for its very moment. -/
theorem read?_shown {text : String} (h : u.shown? = some text) :
    DateTime.read? text.toList = some u.dateTime := by
  obtain ⟨hyears, rfl⟩ := u.shown?_eq_some_iff.1 h
  rw [String.toList_ofList]
  exact DateTime.read?_write (u.isValid_dateTime hyears)

/-- No two timestamps are shown alike. -/
theorem eq_of_shown? {u u' : UnixMillis} {text : String} (h : u.shown? = some text)
    (h' : u'.shown? = some text) : u = u' := by
  have hread : u.dateTime = u'.dateTime :=
    Option.some.inj ((u.read?_shown h).symm.trans (u'.read?_shown h'))
  have hmoment : (u.nanos : Rat) / nanosPerSecond = (u'.nanos : Rat) / nanosPerSecond := by
    rw [← moment_dateTime, ← moment_dateTime, hread]
  refine ext_nanos ?_
  exact_mod_cast (div_left_inj' cast_nanosPerSecond_ne_zero).1 hmoment

theorem bind_shown?_eq_some_iff {t : Instant} {text : String} :
    (ofInstant? t).bind shown? = some text ↔
      ∃ u : UnixMillis, u.nanos = t.nanos ∧ u.shown? = some text := by
  rw [Option.bind_eq_some_iff]
  constructor
  · rintro ⟨u, hu, htext⟩
    exact ⟨u, (ofNanos?_eq_some_iff.1 hu).2, htext⟩
  · rintro ⟨u, hnanos, htext⟩
    exact ⟨u, ofNanos?_eq_some_iff.2 ⟨hnanos ▸ u.fallsWithin_nanos, hnanos⟩, htext⟩

/-- An instant has a timestamp that is shown exactly if its year in universal time has four digits.
What is shown is a date and time of the profile: that of the calendar day on which the moment falls,
with a fraction that does not end in a zero, and standing for the very moment. So two instants are
shown alike exactly if they are the same moment. -/
theorem shown_names_moment :
    (∀ t : Instant, ((ofInstant? t).bind shown?).isSome ↔ FallsWithin 0 9999 t.nanos)
    ∧ (∀ t text, (ofInstant? t).bind shown? = some text → text.toList.getLast? = some 'Z'
      ∧ ∃ d, DateTime.read? text.toList = some d ∧ d.IsValid ∧ d.date.Covers t.nanos
        ∧ d.moment = (t.nanos : Rat) / nanosPerSecond ∧ d.fraction.getLast? ≠ some '0')
    ∧ ∀ t t' text text', (ofInstant? t).bind shown? = some text →
      (ofInstant? t').bind shown? = some text' → (text = text' ↔ t.nanos = t'.nanos) := by
  refine ⟨fun t => ?_, fun t text h => ?_, fun t t' text text' h h' => ?_⟩
  · rw [Option.isSome_iff_exists]
    constructor
    · rintro ⟨text, h⟩
      obtain ⟨u, hnanos, htext⟩ := bind_shown?_eq_some_iff.1 h
      exact hnanos ▸ (u.shown?_eq_some_iff.1 htext).1
    · intro hyears
      have hrange := hyears.mono (by decide : (-9999 : Int) ≤ 0) (Int.le_refl 9999)
      obtain ⟨u, hu⟩ := Option.isSome_iff_exists.1 (isSome_ofNanos?_iff.2 hrange)
      have hnanos : u.nanos = t.nanos := (ofNanos?_eq_some_iff.1 hu).2
      have htext := u.shown?_eq_some_iff.2 ⟨hnanos ▸ hyears, rfl⟩
      exact ⟨_, bind_shown?_eq_some_iff.2 ⟨u, hnanos, htext⟩⟩
  · obtain ⟨u, hnanos, htext⟩ := bind_shown?_eq_some_iff.1 h
    obtain ⟨hyears, heq⟩ := u.shown?_eq_some_iff.1 htext
    rw [← hnanos]
    refine ⟨?_, u.dateTime, u.read?_shown htext, u.isValid_dateTime hyears, u.covers_date,
      u.moment_dateTime, Decimal.getLast?_fraction _ _⟩
    rw [heq, String.toList_ofList]
    exact List.getLast?_concat
  · obtain ⟨u, hnanos, htext⟩ := bind_shown?_eq_some_iff.1 h
    obtain ⟨u', hnanos', htext'⟩ := bind_shown?_eq_some_iff.1 h'
    rw [← hnanos, ← hnanos']
    constructor
    · rintro rfl
      rw [eq_of_shown? htext htext']
    · intro heq
      rw [ext_nanos heq] at htext
      exact Option.some.inj (htext.symm.trans htext')

end UnixMillis

end BearerAuth.Time
