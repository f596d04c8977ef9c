import BearerAuth.Http.Header
import Mathlib.Data.List.Basic

/-!
# Setting a header

After a value is set it is the only one of its name (`values_set_self`), and every other name has
the values it had (`values_set_of_ne`). Of two values set one after the other under a name nothing
is left of the first (`set_set`). A value is made of octets exactly if each of them is legal
(`ofOctets?_eq_some_iff`).
-/

namespace BearerAuth.Http

namespace Headers

variable {name other : HeaderName} {value : HeaderValue}

theorem filter_setField_self : ∀ fields : List (HeaderName × HeaderValue),
    (setField name value fields).filter (·.1 = name) = [(name, value)]
  | [] => by simp [setField]
  | f :: later => by
    simp only [setField]
    split_ifs with h
    · simp [List.filter_filter]
    · rw [List.filter_cons_of_neg (by simpa using h), filter_setField_self later]

theorem filter_setField_of_ne (hne : other ≠ name) : ∀ fields : List (HeaderName × HeaderValue),
    (setField name value fields).filter (·.1 = other) = fields.filter (·.1 = other)
  | [] => by simp [setField, hne.symm]
  | f :: later => by
    simp only [setField]
    split_ifs with h
    · have hf : f.1 ≠ other := fun hother => hne (hother.symm.trans h)
      rw [List.filter_cons_of_neg (by simpa using hne.symm),
        List.filter_cons_of_neg (by simpa using hf), List.filter_filter]
      refine List.filter_congr fun g _ => ?_
      by_cases hg : g.1 = other <;> simp [hg, hne]
    · simp only [List.filter_cons, filter_setField_of_ne hne later]

theorem setField_setField (value' : HeaderValue) : ∀ fields : List (HeaderName × HeaderValue),
    setField name value' (setField name value fields) = setField name value' fields
  | [] => by simp [setField]
  | f :: later => by
    by_cases h : f.1 = name
    · simp [setField, h, List.filter_filter]
    · simp only [setField, h, if_false, setField_setField value' later]

theorem set_set (h : Headers) (value' : HeaderValue) :
    (h.set name value).set name value' = h.set name value' := by
  simp only [set, setField_setField]

theorem values_set_self (h : Headers) : (h.set name value).values name = [value] := by
  simp only [values, set, filter_setField_self, List.map_cons, List.map_nil]

theorem values_set_of_ne (hne : other ≠ name) (h : Headers) :
    (h.set name value).values other = h.values other := by
  simp only [values, set, filter_setField_of_ne hne]

end Headers

theorem isValueOctet_iff {b : UInt8} : isValueOctet b ↔ b = 9 ∨ 32 ≤ b ∧ b ≠ 127 := by
  simp [isValueOctet]

theorem HeaderValue.ofOctets?_eq_some_iff {octets : Bytes} {v : HeaderValue} :
    ofOctets? octets = some v ↔ v.octets = octets ∧ v.sensitive = false := by
  unfold ofOctets?
  constructor
  · intro h
    split_ifs at h
    cases h
    exact ⟨rfl, rfl⟩
  · rintro ⟨rfl, hsensitive⟩
    rw [dif_pos v.octets_legal, ← hsensitive]

theorem HeaderValue.ofOctets?_isSome_iff {octets : Bytes} :
    (ofOctets? octets).isSome ↔ octets.all isValueOctet := by
  unfold ofOctets?
  split_ifs with h <;> simp [h]

end BearerAuth.Http
