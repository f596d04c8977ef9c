import BearerAuth.Proofs.Json.Integer
import BearerAuth.Proofs.Time.Milliseconds

/-!
# Timestamps as they are written

A text is read as a timestamp exactly if it is the written form of a count in range, apart from
blanks (`whole_read_eq_ok_iff`). A timestamp is written as the floor of its count and read back
from that without what is beyond whole milliseconds (`written_form_exact`).
-/

namespace BearerAuth.Time.UnixMillis

open Json

variable {b : Bytes} {u v : UnixMillis}

/-- The written form of a timestamp. -/
def written (v : UnixMillis) : Bytes :=
  Bytes.ofText v.millis.toInt.repr

theorem write_toJson (v : UnixMillis) : v.toJson.write = .ok v.written := rfl

theorem whole_read (b : Bytes) : read.whole b = .ok v ↔
    ∃ i, readInt64.whole b = .ok i ∧ ofMillis? i = some v := by
  simp only [Reader.whole_eq_ok_iff, read, Reader.run_bind_eq_ok_iff]
  constructor
  · rintro ⟨rest, ⟨i, t, hread, hmillis⟩, hrest⟩
    split at hmillis
    · rename_i u hu
      cases hmillis
      exact ⟨i, ⟨rest, hread, hrest⟩, hu⟩
    · cases hmillis
  · rintro ⟨i, ⟨rest, hread, hrest⟩, hmillis⟩
    refine ⟨rest, ⟨i, rest, hread, ?_⟩, hrest⟩
    rw [hmillis]
    rfl

/-- A text is read as a timestamp exactly if it is the written form of a count in range, apart from
blanks. -/
theorem whole_read_eq_ok_iff : read.whole b = .ok v ↔ ∃ m : Int,
    trimmed b = Bytes.ofText m.repr ∧ FallsWithin (-9999) 9999 (m * nanosPerMilli)
      ∧ v.nanos = m * nanosPerMilli := by
  rw [whole_read]
  constructor
  · rintro ⟨i, hread, hmillis⟩
    exact ⟨i.toInt, whole_readInt64_eq_ok_iff.1 hread, ofMillis?_eq_some_iff.1 hmillis⟩
  · rintro ⟨m, hb, hrange, hnanos⟩
    have hm := toInt_ofInt_of_fallsWithin hrange
    refine ⟨Int64.ofInt m, whole_readInt64_eq_ok_iff.2 (by rw [hm, hb]), ?_⟩
    exact ofMillis?_eq_some_iff.2 (by rw [hm]; exact ⟨hrange, hnanos⟩)

theorem written_of_whole_read (h : read.whole b = .ok v) : v.written = trimmed b := by
  obtain ⟨i, hread, hmillis⟩ := (whole_read b).1 h
  rw [written, millis_ofMillis? hmillis, whole_readInt64_eq_ok_iff.1 hread]

theorem written_eq_iff :
    u.written = v.written ↔ u.nanos / nanosPerMilli = v.nanos / nanosPerMilli := by
  unfold written
  rw [toInt_millis, toInt_millis]
  exact ⟨ofText_repr_inj, fun h => by rw [h]⟩

theorem exists_whole_read_written (v : UnixMillis) : ∃ w, read.whole v.written = .ok w
    ∧ w.nanos = v.nanos / nanosPerMilli * nanosPerMilli := by
  obtain ⟨w, hw, hnanos⟩ := v.exists_ofMillis?_millis
  refine ⟨w, (whole_read _).2 ⟨v.millis, ?_, hw⟩, hnanos⟩
  exact whole_readInt64_eq_ok_iff.2 (trimmed_of_not_isBlank (not_isBlank_of_mem_repr _))

/-- A text is a timestamp exactly if, without the blanks around it, it is the decimal form of a
count in range; the timestamp has just that count and is written in that form. What is written for
a timestamp is read as the last of whole milliseconds that is not after it, and is then written the
same. Two timestamps are written alike exactly if the floors of their counts agree. -/
theorem written_form_exact :
    (∀ b, (∃ v, read.whole b = .ok v) ↔ ∃ m : Int, trimmed b = Bytes.ofText m.repr
      ∧ FallsWithin (-9999) 9999 (m * nanosPerMilli))
    ∧ (∀ b v, read.whole b = .ok v → v.toJson.write = .ok (trimmed b)
      ∧ ∀ m : Int, trimmed b = Bytes.ofText m.repr → v.nanos = m * nanosPerMilli)
    ∧ (∀ v : UnixMillis, ∃ text w, v.toJson.write = .ok text ∧ read.whole text = .ok w
      ∧ w.nanos = v.nanos / nanosPerMilli * nanosPerMilli ∧ w.toJson.write = .ok text)
    ∧ ∀ u v : UnixMillis, u.toJson.write = v.toJson.write ↔
      u.nanos / nanosPerMilli = v.nanos / nanosPerMilli := by
  refine ⟨fun b => ⟨?_, ?_⟩, fun b v hread => ⟨?_, fun m hm => ?_⟩, fun v => ?_, fun u v => ?_⟩
  · rintro ⟨v, hread⟩
    obtain ⟨m, hm, hrange, -⟩ := whole_read_eq_ok_iff.1 hread
    exact ⟨m, hm, hrange⟩
  · rintro ⟨m, hm, hrange⟩
    obtain ⟨v, hv⟩ := Option.isSome_iff_exists.1 (isSome_ofNanos?_iff.2 hrange)
    exact ⟨v, whole_read_eq_ok_iff.2 ⟨m, hm, ofNanos?_eq_some_iff.1 hv⟩⟩
  · rw [write_toJson, written_of_whole_read hread]
  · obtain ⟨m', hm', -, hnanos⟩ := whole_read_eq_ok_iff.1 hread
    rw [hnanos, ofText_repr_inj (hm'.symm.trans hm)]
  · obtain ⟨w, hread, hnanos⟩ := v.exists_whole_read_written
    refine ⟨v.written, w, rfl, hread, hnanos, ?_⟩
    rw [write_toJson, written_eq_iff.2]
    unfold nanosPerMilli at *
    omega
  · rw [write_toJson, write_toJson, Except.ok.injEq, written_eq_iff]

end BearerAuth.Time.UnixMillis
