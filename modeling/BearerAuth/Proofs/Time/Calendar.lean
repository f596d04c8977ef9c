import BearerAuth.Time.Date
import Mathlib.Order.Monotone.Basic
import Mathlib.Tactic.IntervalCases
import Mathlib.Tactic.SplitIfs

/-!
# The calendar

The rules of the Gregorian calendar give every year and every month a length (`Date.yearLength`,
`Date.monthLength`), and so every date the number of days from the first of January 1970 to it
(`Date.ordinal`). A day of 400 years falls into a century, four years and a year of these
(`exists_cycle_day`), and the division by which the year is found finds just that one
(`yearOfDay_eq`). So each day has one date, and it is the one that is found (`ofDays_eq_iff`).
-/

namespace BearerAuth.Time.Date

/-- Whether a year has the day more: each fourth has, of those at the end of a century only each
fourth. -/
def IsLeap (year : Int) : Prop :=
  year % 4 = 0 ∧ (year % 100 ≠ 0 ∨ year % 400 = 0)

instance (year : Int) : Decidable (IsLeap year) :=
  inferInstanceAs (Decidable (_ ∧ _))

def yearLength (year : Int) : Nat :=
  if IsLeap year then 366 else 365

def monthLength (year : Int) (month : Nat) : Nat :=
  if month = 2 then (if IsLeap year then 29 else 28)
  else if month = 4 ∨ month = 6 ∨ month = 9 ∨ month = 11 then 30 else 31

/-- Leap years from year one to the one before a year, less those from that year to year zero. -/
def leapsBefore (year : Int) : Int :=
  (year - 1) / 4 - (year - 1) / 100 + (year - 1) / 400

/-- Days from the start of 1970 to the start of a year. -/
def daysToYear (year : Int) : Int :=
  365 * (year - 1970) + (leapsBefore year - leapsBefore 1970)

/-- Days from the start of a year to the start of one of its months. -/
def daysToMonth (year : Int) : (month : Nat) → Nat
  | 0 | 1 => 0
  | month + 2 => daysToMonth year (month + 1) + monthLength year (month + 1)

structure IsValid (d : Date) : Prop where
  one_le_month : 1 ≤ d.month
  month_le : d.month ≤ 12
  one_le_day : 1 ≤ d.day
  day_le : d.day ≤ monthLength d.year d.month

instance (d : Date) : Decidable d.IsValid :=
  decidable_of_iff (1 ≤ d.month ∧ d.month ≤ 12 ∧ 1 ≤ d.day ∧ d.day ≤ monthLength d.year d.month)
    ⟨fun ⟨h, h', h'', h'''⟩ => ⟨h, h', h'', h'''⟩, fun ⟨h, h', h'', h'''⟩ => ⟨h, h', h'', h'''⟩⟩

/-- Days from the first of January 1970 to a date. -/
def ordinal (d : Date) : Int :=
  daysToYear d.year + daysToMonth d.year d.month + (d.day - 1 : Nat)

theorem leapsBefore_succ (year : Int) :
    leapsBefore (year + 1) = leapsBefore year + (if IsLeap year then 1 else 0) := by
  unfold leapsBefore
  by_cases h : IsLeap year
  · rw [if_pos h]
    unfold IsLeap at h
    omega
  · rw [if_neg h]
    unfold IsLeap at h
    omega

theorem daysToYear_succ (year : Int) :
    daysToYear (year + 1) = daysToYear year + yearLength year := by
  unfold daysToYear yearLength
  rw [leapsBefore_succ]
  split_ifs <;> omega

theorem daysToYear_lt_iff {year year' : Int} :
    daysToYear year < daysToYear year' ↔ year < year' := by
  refine (strictMono_int_of_lt_succ fun year => ?_).lt_iff_lt
  rw [daysToYear_succ]
  unfold yearLength
  split_ifs <;> omega

theorem daysToMonth_succ (year : Int) {month : Nat} (h : 1 ≤ month) :
    daysToMonth year (month + 1) = daysToMonth year month + monthLength year month := by
  obtain ⟨m, rfl⟩ : ∃ m, month = m + 1 := ⟨month - 1, by omega⟩
  rfl

theorem daysToMonth_mono (year : Int) : Monotone (daysToMonth year) := by
  refine monotone_nat_of_le_succ fun month => ?_
  rcases month with _ | month
  · exact Nat.le_refl 0
  · rw [daysToMonth_succ year (Nat.succ_pos month)]
    exact Nat.le_add_right _ _

theorem monthLength_le (year : Int) (month : Nat) : monthLength year month ≤ 31 := by
  unfold monthLength
  split_ifs <;> omega

theorem daysToMonth_end (year : Int) : daysToMonth year 13 = yearLength year := by
  unfold yearLength
  simp only [daysToMonth, monthLength]
  by_cases h : IsLeap year
  · simp [h]
  · simp [h]

theorem daysToMonth_march (year : Int) : daysToMonth year 3 + 306 = yearLength year := by
  unfold yearLength
  simp only [daysToMonth, monthLength]
  by_cases h : IsLeap year
  · simp [h]
  · simp [h]

section Order

variable {d d' : Date}

theorem IsValid.lt_daysToMonth (h : d.IsValid) :
    daysToMonth d.year d.month + (d.day - 1) < daysToMonth d.year (d.month + 1) := by
  have := h.one_le_day
  have := h.day_le
  rw [daysToMonth_succ d.year h.one_le_month]
  omega

theorem IsValid.daysToYear_le (h : d.IsValid) :
    daysToYear d.year ≤ d.ordinal ∧ d.ordinal < daysToYear (d.year + 1) := by
  have hlt := h.lt_daysToMonth
  have hle : daysToMonth d.year (d.month + 1) ≤ daysToMonth d.year 13 :=
    daysToMonth_mono d.year (Nat.succ_le_succ h.month_le)
  rw [daysToMonth_end] at hle
  rw [daysToYear_succ]
  unfold ordinal
  omega

theorem IsValid.le_year_iff (h : d.IsValid) (year : Int) :
    year ≤ d.year ↔ daysToYear year ≤ d.ordinal := by
  obtain ⟨hle, hlt⟩ := h.daysToYear_le
  constructor
  · intro hyear
    have : ¬ daysToYear d.year < daysToYear year := by
      rw [daysToYear_lt_iff]
      omega
    omega
  · intro hdays
    have := daysToYear_lt_iff.1 (Int.lt_of_le_of_lt hdays hlt)
    omega

theorem IsValid.month_le_of_daysToMonth_le (h : d.IsValid) {month : Nat}
    (hle : daysToMonth d.year month ≤ daysToMonth d.year d.month + (d.day - 1)) :
    month ≤ d.month := by
  by_contra hgt
  have : daysToMonth d.year (d.month + 1) ≤ daysToMonth d.year month :=
    daysToMonth_mono d.year (Nat.lt_of_not_le hgt)
  have := h.lt_daysToMonth
  omega

/-- No two dates are the same day. -/
theorem eq_of_ordinal_eq (h : d.IsValid) (h' : d'.IsValid) (heq : d.ordinal = d'.ordinal) :
    d = d' := by
  have hyear : d.year = d'.year :=
    Int.le_antisymm ((h'.le_year_iff _).2 (heq ▸ h.daysToYear_le.1))
      ((h.le_year_iff _).2 (heq ▸ h'.daysToYear_le.1))
  have hdays : daysToMonth d.year d.month + (d.day - 1)
      = daysToMonth d.year d'.month + (d'.day - 1) := by
    unfold ordinal at heq
    rw [← hyear] at heq
    omega
  have hmonth : d.month = d'.month := by
    refine Nat.le_antisymm (h'.month_le_of_daysToMonth_le ?_) (h.month_le_of_daysToMonth_le ?_)
    · rw [← hyear, ← hdays]
      exact Nat.le_add_right _ _
    · rw [hdays]
      exact Nat.le_add_right _ _
  have hday : d.day = d'.day := by
    have := h.one_le_day
    have := h'.one_le_day
    rw [hmonth] at hdays
    omega
  obtain ⟨year, month, day⟩ := d
  obtain ⟨year', month', day'⟩ := d'
  cases hyear
  cases hmonth
  cases hday
  rfl

end Order

/-! ### The date that is found -/

/-- A day of a cycle falls into a century, four years and a year of these. Of the years that begin
in March, those have the day more that are followed by a leap year. -/
theorem exists_cycle_day {d : Nat} (h : d < cycle) : ∃ c q s r : Nat,
    d = 36524 * c + 1461 * q + 365 * s + r ∧ c ≤ 3 ∧ q ≤ 24 ∧ s ≤ 3 ∧ r ≤ 365
      ∧ (r = 365 → s = 3 ∧ (q = 24 → c = 3)) := by
  unfold cycle at h
  have hc : ∃ c e, d = 36524 * c + e ∧ c ≤ 3 ∧ e ≤ 36524 ∧ (e = 36524 → c = 3) :=
    ⟨min (d / 36524) 3, d - 36524 * min (d / 36524) 3, by omega⟩
  obtain ⟨c, e, rfl, hc, he, hlast⟩ := hc
  have hs : ∃ s r, e % 1461 = 365 * s + r ∧ s ≤ 3 ∧ r ≤ 365 ∧ (r = 365 → s = 3) :=
    ⟨min (e % 1461 / 365) 3, e % 1461 - 365 * min (e % 1461 / 365) 3, by omega⟩
  obtain ⟨s, r, hr, hs, hr', hlast'⟩ := hs
  exact ⟨c, e / 1461, s, r, by omega, hc, by omega, hs, hr', by omega⟩

theorem yearStart_eq {c q s : Nat} (hq : q ≤ 24) (hs : s ≤ 3) :
    yearStart (100 * c + 4 * q + s) = 36524 * c + 1461 * q + 365 * s := by
  unfold yearStart
  omega

theorem yearOfDay_eq {c q s r : Nat} (hc : c ≤ 3) (hq : q ≤ 24) (hs : s ≤ 3) (hr : r ≤ 365)
    (hlast : r = 365 → s = 3 ∧ (q = 24 → c = 3)) :
    yearOfDay (36524 * c + 1461 * q + 365 * s + r) = 100 * c + 4 * q + s := by
  unfold yearOfDay
  generalize hd : 36524 * c + 1461 * q + 365 * s + r = d
  -- four years are a day longer than 1460 days, so the count of these may be one ahead
  have h4 : ∃ e, d / 1460 = 25 * c + q + e ∧ e ≤ r ∧ r ≤ 364 + e := by
    by_cases hlong : 1460 ≤ 24 * c + q + 365 * s + r
    · exact ⟨1, by omega⟩
    · exact ⟨0, by omega⟩
  have h400 : d / 36524 = c + d / 146096 := by
    by_cases hend : d = 146096
    · omega
    · have hlt : d < 36524 * (c + 1) := by omega
      omega
  obtain ⟨e, h4, he, hr'⟩ := h4
  have hdays : d - d / 1460 + d / 36524 - d / 146096 = 365 * (100 * c + 4 * q + s) + (r - e) := by
    rw [h4, h400]
    generalize d / 146096 = f
    clear hlast h4 h400
    omega
  rw [hdays]
  clear hlast h4 h400 hdays hd
  omega

/-- The days from 1970 to the year that follows one that begins in March. -/
theorem daysToYear_eq (k : Int) {y : Nat} (h : y < 400) :
    daysToYear (400 * k + y + 1) = 146097 * k + yearStart y + 306 - epoch := by
  have h1970 : leapsBefore 1970 = 477 := by decide
  unfold daysToYear epoch yearStart
  rw [h1970]
  unfold leapsBefore
  omega

theorem isLeap_of_cycle (k : Int) {c q : Nat} (hq : q ≤ 24) (hlast : q = 24 → c = 3) :
    IsLeap (400 * k + (100 * c + 4 * q + 3 : Nat) + 1) := by
  unfold IsLeap
  omega

/-- The date of the day `r` of the year that begins in March of `y`. -/
def ofMarch (y : Int) (r : Nat) : Date :=
  let m := (5 * r + 2) / 153
  ⟨y + (if 10 ≤ m then 1 else 0), if 10 ≤ m then m - 9 else m + 3, r - monthStart m + 1⟩

section March

variable {m r : Nat} (y : Int)

theorem month_of_day (h : r ≤ 365) : (5 * r + 2) / 153 ≤ 11
    ∧ monthStart ((5 * r + 2) / 153) ≤ r ∧ r < monthStart ((5 * r + 2) / 153 + 1) := by
  unfold monthStart
  omega

theorem daysToMonth_early (h : m ≤ 9) :
    daysToMonth y (m + 3) = daysToMonth y 3 + monthStart m := by
  interval_cases m <;> simp [daysToMonth, monthLength, monthStart, Nat.add_assoc]

theorem daysToMonth_late (h : 10 ≤ m) (h' : m ≤ 11) :
    daysToMonth y (m - 9) + 306 = monthStart m := by
  interval_cases m <;> rfl

theorem monthLength_early (h : m ≤ 9) :
    monthStart (m + 1) = monthStart m + monthLength y (m + 3) := by
  interval_cases m <;> rfl

theorem ofMarch_of_early (h : (5 * r + 2) / 153 = m) (hm : m ≤ 9) :
    ofMarch y r = ⟨y, m + 3, r - monthStart m + 1⟩ := by
  have hlate : ¬ 10 ≤ m := by omega
  simp only [ofMarch, h, hlate, if_false, Int.add_zero]

theorem ofMarch_of_late (h : (5 * r + 2) / 153 = m) (hm : 10 ≤ m) :
    ofMarch y r = ⟨y + 1, m - 9, r - monthStart m + 1⟩ := by
  simp only [ofMarch, h, hm, if_true]

/-- Only the last month of a year that begins in March may be cut short. -/
theorem isValid_ofMarch (h : r ≤ 365) (hleap : r = 365 → IsLeap (y + 1)) :
    (ofMarch y r).IsValid := by
  obtain ⟨hm, hle, hlt⟩ := month_of_day h
  generalize hmonth : (5 * r + 2) / 153 = m at hm hle hlt
  by_cases hearly : m ≤ 9
  · rw [ofMarch_of_early y hmonth hearly]
    have hlength := monthLength_early y hearly
    refine ⟨Nat.succ_pos _, Nat.add_le_add_right hearly 3, Nat.succ_pos _, ?_⟩
    show r - monthStart m + 1 ≤ monthLength y (m + 3)
    omega
  · rw [ofMarch_of_late y hmonth (by omega)]
    obtain rfl | rfl : m = 10 ∨ m = 11 := by omega
    · refine ⟨Nat.le_refl 1, (by decide : 1 ≤ 12), Nat.succ_pos _, ?_⟩
      show r - 306 + 1 ≤ 31
      have : r < 337 := hlt
      omega
    · refine ⟨(by decide : 1 ≤ 2), (by decide : 2 ≤ 12), Nat.succ_pos _, ?_⟩
      show r - 337 + 1 ≤ if IsLeap (y + 1) then 29 else 28
      by_cases hend : r = 365
      · rw [if_pos (hleap hend)]
        omega
      · split_ifs <;> omega

theorem ordinal_ofMarch (h : r ≤ 365) :
    (ofMarch y r).ordinal = daysToYear (y + 1) - 306 + r := by
  obtain ⟨hm, hle, -⟩ := month_of_day h
  generalize hmonth : (5 * r + 2) / 153 = m at hm hle
  by_cases hearly : m ≤ 9
  · rw [ofMarch_of_early y hmonth hearly]
    have hmarch := daysToMonth_march y
    have hyear := daysToYear_succ y
    simp only [ordinal, daysToMonth_early y hearly, Nat.add_sub_cancel]
    omega
  · rw [ofMarch_of_late y hmonth (by omega)]
    have hlate := daysToMonth_late (y + 1) (by omega : 10 ≤ m) hm
    simp only [ordinal, Nat.add_sub_cancel]
    omega

end March

theorem ofDays_eq_ofMarch (k : Int) {c q s r : Nat} (hc : c ≤ 3) (hq : q ≤ 24) (hs : s ≤ 3)
    (hr : r ≤ 365) (hlast : r = 365 → s = 3 ∧ (q = 24 → c = 3)) :
    ofDays (146097 * k + (36524 * c + 1461 * q + 365 * s + r : Nat) - epoch)
      = ofMarch (400 * k + (100 * c + 4 * q + s : Nat)) r := by
  have hlt : 36524 * c + 1461 * q + 365 * s + r < 146097 := by omega
  have hyear := yearOfDay_eq hc hq hs hr hlast
  have hday : 36524 * c + 1461 * q + 365 * s + r - yearStart (100 * c + 4 * q + s) = r := by
    rw [yearStart_eq hq hs]
    omega
  generalize 36524 * c + 1461 * q + 365 * s + r = d at *
  have hshift : 146097 * k + (d : Int) - epoch + epoch = 146097 * k + d := by omega
  have hcycles : (146097 * k + (d : Int)) / (cycle : Int) = k := by
    unfold cycle
    omega
  have hrest : ((146097 * k + (d : Int)) % (cycle : Int)).toNat = d := by
    unfold cycle
    omega
  simp only [ofDays, hshift, hcycles, hrest, hyear, hday, ofMarch, Int.mul_comm k 400]

theorem exists_ofMarch (n : Int) : ∃ y r, ofDays n = ofMarch y r ∧ r ≤ 365
    ∧ (r = 365 → IsLeap (y + 1)) ∧ n = daysToYear (y + 1) - 306 + r := by
  have hlt : ((n + epoch) % (cycle : Int)).toNat < cycle := by
    unfold cycle
    omega
  obtain ⟨c, q, s, r, hd, hc, hq, hs, hr, hlast⟩ := exists_cycle_day hlt
  have hn : n = 146097 * ((n + epoch) / (cycle : Int))
      + (36524 * c + 1461 * q + 365 * s + r : Nat) - epoch := by
    rw [← hd]
    unfold cycle
    omega
  generalize (n + epoch) / (cycle : Int) = k at hn
  refine ⟨400 * k + (100 * c + 4 * q + s : Nat), r, ?_, hr, fun hend => ?_, ?_⟩
  · rw [hn, ofDays_eq_ofMarch k hc hq hs hr hlast]
  · obtain ⟨rfl, hcentury⟩ := hlast hend
    exact isLeap_of_cycle k hq hcentury
  · rw [daysToYear_eq k (by omega), yearStart_eq hq hs]
    omega

/-- A date is found for a day if and only if it is a date of the calendar and that day. -/
theorem ofDays_eq_iff {n : Int} {d : Date} : ofDays n = d ↔ d.IsValid ∧ d.ordinal = n := by
  have hfound : (ofDays n).IsValid ∧ (ofDays n).ordinal = n := by
    obtain ⟨y, r, hdate, hr, hleap, hn⟩ := exists_ofMarch n
    rw [hdate, ordinal_ofMarch y hr, ← hn]
    exact ⟨isValid_ofMarch y hr hleap, rfl⟩
  constructor
  · rintro rfl
    exact hfound
  · rintro ⟨hvalid, hn⟩
    exact eq_of_ordinal_eq hfound.1 hvalid (hfound.2.trans hn.symm)

example : ofDays 11016 = ⟨2000, 2, 29⟩ := by decide

theorem isValid_ofDays (n : Int) : (ofDays n).IsValid :=
  (ofDays_eq_iff.1 rfl).1

theorem ordinal_ofDays (n : Int) : (ofDays n).ordinal = n :=
  (ofDays_eq_iff.1 rfl).2

/-- The years of days, in order. -/
theorem le_year_ofDays_iff (n year : Int) : year ≤ (ofDays n).year ↔ daysToYear year ≤ n := by
  rw [(isValid_ofDays n).le_year_iff, ordinal_ofDays]

end BearerAuth.Time.Date
