import BearerAuth.Proofs.Time.Calendar
import BearerAuth.Time.UnixMillis

/-!
# Milliseconds are rounded down

The range of timestamps is that of the years from -9999 to 9999 (`isSome_ofNanos?_iff`), where the
year is that of the date in universal time on which a moment falls (`Date.Covers`). All milliseconds
of that range are integers of 64 bits, so none is changed on its way into one (`toInt_millis`), and
each is the timestamp of its own count (`ofMillis?_eq_some_iff`). So the count of a timestamp is
that of the last whole millisecond that is not after it (`millis_exact_floor`).
-/

namespace BearerAuth.Time

def nanosPerDay : Nat := secondsPerDay * nanosPerSecond

/-- Whether a moment, counted in nanoseconds since the epoch, falls on a date of universal time. -/
def Date.Covers (d : Date) (nanos : Int) : Prop :=
  d.IsValid ∧ d.ordinal * nanosPerDay ≤ nanos ∧ nanos < (d.ordinal + 1) * nanosPerDay

/-- Whether a moment falls into the years from `first` to `last` of universal time. -/
def FallsWithin (first last nanos : Int) : Prop :=
  ∃ d : Date, d.Covers nanos ∧ first ≤ d.year ∧ d.year ≤ last

theorem FallsWithin.mono {first last first' last' nanos : Int} (h : FallsWithin first last nanos)
    (hfirst : first' ≤ first) (hlast : last ≤ last') : FallsWithin first' last' nanos := by
  obtain ⟨d, hd, hle, hle'⟩ := h
  exact ⟨d, hd, Int.le_trans hfirst hle, Int.le_trans hle' hlast⟩

theorem Date.covers_iff {d : Date} {nanos : Int} :
    d.Covers nanos ↔ ofDays (nanos / nanosPerSecond / secondsPerDay) = d := by
  rw [ofDays_eq_iff]
  refine and_congr_right fun _ => ?_
  unfold nanosPerDay nanosPerSecond secondsPerDay
  omega

theorem fallsWithin_iff {first last nanos : Int} :
    FallsWithin first last nanos ↔
      first ≤ (Date.ofDays (nanos / nanosPerSecond / secondsPerDay)).year
        ∧ (Date.ofDays (nanos / nanosPerSecond / secondsPerDay)).year ≤ last := by
  constructor
  · rintro ⟨d, hd, hyears⟩
    rwa [Date.covers_iff.1 hd]
  · intro hyears
    exact ⟨_, Date.covers_iff.2 rfl, hyears⟩

/-- The range of timestamps is that of whole years. -/
theorem fallsWithin_calendar_iff {nanos : Int} :
    FallsWithin (-9999) 9999 nanos ↔ firstNano ≤ nanos ∧ nanos ≤ lastNano := by
  have hfirst : Date.daysToYear (-9999) = -4371587 := by decide
  have hlast : Date.daysToYear 10000 = 2932897 := by decide
  have hle := Date.le_year_ofDays_iff (nanos / nanosPerSecond / secondsPerDay) (-9999)
  have hlt := Date.le_year_ofDays_iff (nanos / nanosPerSecond / secondsPerDay) 10000
  rw [fallsWithin_iff]
  unfold firstNano lastNano
  unfold nanosPerSecond secondsPerDay at *
  omega

namespace UnixMillis

theorem ext_nanos {u v : UnixMillis} (h : u.nanos = v.nanos) : u = v := by
  obtain ⟨⟨m, ⟨zone, hzone⟩, hfirst, hlast⟩, hoffset⟩ := u
  obtain ⟨⟨n, ⟨zone', hzone'⟩, hfirst', hlast'⟩, hoffset'⟩ := v
  cases (h : m = n)
  cases (hoffset : zone = 0)
  cases (hoffset' : zone' = 0)
  rfl

theorem ofNanos?_eq_some_iff {nanos : Int} {u : UnixMillis} :
    ofNanos? nanos = some u ↔ FallsWithin (-9999) 9999 nanos ∧ u.nanos = nanos := by
  rw [fallsWithin_calendar_iff]
  unfold ofNanos?
  split_ifs with h
  · rw [Int.zero_mul, Int.add_zero] at h
    refine ⟨fun hu => ?_, fun hu => ?_⟩
    · cases hu
      exact ⟨h, rfl⟩
    · exact congrArg some (ext_nanos hu.2.symm)
  · rw [Int.zero_mul, Int.add_zero] at h
    simp [h]

theorem isSome_ofNanos?_iff {nanos : Int} :
    (ofNanos? nanos).isSome ↔ FallsWithin (-9999) 9999 nanos := by
  rw [Option.isSome_iff_exists]
  constructor
  · rintro ⟨u, hu⟩
    exact (ofNanos?_eq_some_iff.1 hu).1
  · intro h
    unfold ofNanos?
    rw [fallsWithin_calendar_iff] at h
    rw [dif_pos (by rwa [Int.zero_mul, Int.add_zero])]
    exact ⟨_, rfl⟩

theorem fallsWithin_nanos (u : UnixMillis) : FallsWithin (-9999) 9999 u.nanos := by
  have hfirst := u.instant.first_le
  have hlast := u.instant.le_last
  have hoffset : u.instant.zone.seconds = 0 := u.offset_eq
  rw [hoffset, Int.zero_mul, Int.add_zero] at hfirst hlast
  exact fallsWithin_calendar_iff.2 ⟨hfirst, hlast⟩

/-- Rounding down to whole milliseconds does not leave the range. -/
theorem fallsWithin_floor (u : UnixMillis) :
    FallsWithin (-9999) 9999 (u.nanos / nanosPerMilli * nanosPerMilli) := by
  have h := fallsWithin_calendar_iff.1 u.fallsWithin_nanos
  rw [fallsWithin_calendar_iff]
  unfold firstNano lastNano nanosPerSecond nanosPerMilli at *
  omega

/-- No count in range is changed on its way into 64 bits. -/
theorem toInt_ofInt_of_fallsWithin {m : Int}
    (h : FallsWithin (-9999) 9999 (m * nanosPerMilli)) : (Int64.ofInt m).toInt = m := by
  rw [fallsWithin_calendar_iff] at h
  unfold firstNano lastNano nanosPerSecond nanosPerMilli at h
  apply Int64.toInt_ofInt_of_le <;> omega

theorem toInt_millis (u : UnixMillis) : u.millis.toInt = u.nanos / nanosPerMilli :=
  toInt_ofInt_of_fallsWithin u.fallsWithin_floor

theorem ofMillis?_eq_some_iff {m : Int64} {v : UnixMillis} : ofMillis? m = some v ↔
    FallsWithin (-9999) 9999 (m.toInt * nanosPerMilli) ∧ v.nanos = m.toInt * nanosPerMilli :=
  ofNanos?_eq_some_iff

theorem millis_ofMillis? {m : Int64} {v : UnixMillis} (h : ofMillis? m = some v) :
    v.millis = m := by
  rw [← Int64.toInt_inj, toInt_millis, (ofMillis?_eq_some_iff.1 h).2]
  unfold nanosPerMilli
  omega

theorem exists_ofMillis?_millis (u : UnixMillis) : ∃ v, ofMillis? u.millis = some v
    ∧ v.nanos = u.nanos / nanosPerMilli * nanosPerMilli := by
  obtain ⟨v, hv⟩ := Option.isSome_iff_exists.1 (isSome_ofNanos?_iff.2 u.fallsWithin_floor)
  refine ⟨v, ?_, (ofNanos?_eq_some_iff.1 hv).2⟩
  unfold ofMillis?
  rw [toInt_millis, hv]

theorem millis_le_of_nanos_le {u v : UnixMillis} (h : u.nanos ≤ v.nanos) :
    u.millis ≤ v.millis := by
  rw [Int64.le_iff_toInt_le, toInt_millis, toInt_millis]
  exact Int.ediv_le_ediv (by decide) h

/-- An instant has a timestamp exactly if its date in universal time is in range. The timestamp is
that of the moment, whatever the offset; its count of milliseconds is the floor of that of
nanoseconds; and the timestamp of that count is the last of whole milliseconds that is not after the
instant. A count has a timestamp exactly if it is in range, and it is then the count of that
timestamp. A timestamp that is not before another has no smaller count. -/
theorem millis_exact_floor :
    (∀ t : Instant, (ofInstant? t).isSome ↔ FallsWithin (-9999) 9999 t.nanos)
    ∧ (∀ t : Instant, FallsWithin (-9999) 9999 t.nanos → ∃ u, ofInstant? t = some u
      ∧ u.millis.toInt * nanosPerMilli ≤ t.nanos
      ∧ t.nanos < (u.millis.toInt + 1) * nanosPerMilli
      ∧ (∀ t' : Instant, t'.nanos = t.nanos → ofInstant? t' = some u)
      ∧ ∃ v, ofMillis? u.millis = some v ∧ v.nanos ≤ t.nanos
        ∧ (nanosPerMilli : Int) ∣ v.nanos
        ∧ ∀ w : UnixMillis, (nanosPerMilli : Int) ∣ w.nanos → w.nanos ≤ t.nanos →
          w.nanos ≤ v.nanos)
    ∧ (∀ m : Int64, (ofMillis? m).isSome ↔
      FallsWithin (-9999) 9999 (m.toInt * nanosPerMilli))
    ∧ (∀ m v, ofMillis? m = some v → v.nanos = m.toInt * nanosPerMilli ∧ v.millis = m)
    ∧ ∀ a b : UnixMillis, b.isBefore a = false → a.millis ≤ b.millis := by
  refine ⟨fun t => isSome_ofNanos?_iff, fun t ht => ?_, fun m => isSome_ofNanos?_iff,
    fun m v hv => ⟨(ofMillis?_eq_some_iff.1 hv).2, millis_ofMillis? hv⟩, fun a b hab => ?_⟩
  · obtain ⟨u, hu⟩ := Option.isSome_iff_exists.1 (isSome_ofNanos?_iff.2 ht)
    have hnanos : u.nanos = t.nanos := (ofNanos?_eq_some_iff.1 hu).2
    obtain ⟨v, hv, hfloor⟩ := u.exists_ofMillis?_millis
    refine ⟨u, hu, ?_⟩
    rw [toInt_millis, ← hnanos]
    refine ⟨?_, ?_, fun t' ht' => ?_, v, hv, ?_, ?_, fun w hwhole hle => ?_⟩
    · unfold nanosPerMilli
      omega
    · unfold nanosPerMilli
      omega
    · unfold ofInstant?
      rw [ht', hnanos, hu]
    · unfold nanosPerMilli at hfloor
      omega
    · exact hfloor ▸ Int.dvd_mul_left _ _
    · unfold nanosPerMilli at hfloor hwhole
      omega
  · refine millis_le_of_nanos_le ?_
    unfold isBefore at hab
    exact Int.not_lt.1 (of_decide_eq_false hab)

/-- The last second of the year 9999 an hour west of universal time, where the next year has
begun. -/
def lastWest : Instant :=
  ⟨253402304399 * nanosPerSecond, ⟨-3600, by decide⟩, by decide, by decide⟩

/-- An instant whose date is in range only where it is shown has no timestamp, and neither has its
count of milliseconds. -/
theorem none_of_lastWest : lastWest.shown = "9999-12-31 23:59:59.0 -01:00:00"
    ∧ ofInstant? lastWest = none
    ∧ ∀ m : Int64, m.toInt * nanosPerMilli ≤ lastWest.nanos →
      lastWest.nanos < (m.toInt + 1) * nanosPerMilli → ofMillis? m = none := by
  refine ⟨by decide +kernel, by decide, fun m hle hlt => ?_⟩
  have hnanos : lastWest.nanos = 253402304399000000000 := rfl
  have hm : m.toInt = 253402304399000 := by
    rw [hnanos] at hle hlt
    unfold nanosPerMilli at hle hlt
    omega
  unfold ofMillis?
  rw [hm]
  decide

end UnixMillis

end BearerAuth.Time
