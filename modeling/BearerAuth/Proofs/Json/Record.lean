import BearerAuth.Json.Record
import BearerAuth.Proofs.Json.Literal

/-!
# Written members read back

A written member is read with the value that its reader takes off after the colon, and the members
after it are read from there on (`membersFrom_member`), up to the closing bracket.
-/

namespace BearerAuth.Json

open Reader

variable {α σ : Type} {member : σ → String → Reader σ} {a b : σ} {s rest : Bytes}

theorem whole_run {r : Reader α} {a : α} (h : r.run s = .ok (a, [])) : whole r s = .ok a := by
  simp only [whole, run_bind, h]
  rfl

/-- What stands before a member. -/
def separator (first : Bool) : Bytes :=
  if first then [] else [Octet.comma]

/-- A written member, with what stands before it. -/
def memberText (first : Bool) (key : String) (value : Bytes) : Bytes :=
  separator first ++ writeString key ++ Octet.colon :: value

theorem readKey_run (first : Bool) (key : String) (s : Bytes) :
    (readKey first).run (separator first ++ writeString key ++ s) = .ok (key, s) := by
  cases first with
  | true => exact readKeyLiteral_writeString key s
  | false =>
    have hcomma : readMemberComma.run (separator false ++ writeString key ++ s)
        = .ok ((), writeString key ++ s) := rfl
    simp only [readKey, run_bind, hcomma]
    exact readKeyLiteral_writeString key s

theorem next_memberText (first : Bool) (key : String) (value s : Bytes) :
    ∃ x, x ≠ Octet.closeObject ∧ next.run (memberText first key value ++ s)
      = .ok (some x, memberText first key value ++ s) := by
  cases first with
  | true => exact ⟨Octet.quote, by decide, rfl⟩
  | false => exact ⟨Octet.comma, by decide, rfl⟩

theorem membersFrom_close (member : σ → String → Reader σ) (first : Bool) (a : σ) (rest : Bytes) :
    membersFrom member first a (Octet.closeObject :: rest) = .ok (a, rest) := by
  have hnext : next.run (Octet.closeObject :: rest)
      = .ok (some Octet.closeObject, Octet.closeObject :: rest) := rfl
  rw [membersFrom]
  split
  · simp_all
  · simp_all
  · rename_i x t hx
    rw [hnext] at hx
    cases hx
    rw [if_pos rfl]
    rfl

/-- A member is read by its reader, and then those after it. -/
theorem membersFrom_memberText {first : Bool} {key : String} {value : Bytes}
    (h : (member a key).run (Octet.colon :: (value ++ rest)) = .ok (b, rest)) :
    membersFrom member first a (memberText first key value ++ rest) =
      membersFrom member false b rest := by
  obtain ⟨x, hx, hnext⟩ := next_memberText first key value rest
  have hmember : (readKey first >>= member a).run (memberText first key value ++ rest)
      = .ok (b, rest) := by
    rw [memberText, List.append_assoc, List.cons_append, run_bind, readKey_run]
    exact h
  rw [membersFrom]
  split
  · simp_all
  · simp_all
  · rename_i y t hy
    rw [hnext] at hy
    cases hy
    rw [if_neg hx]
    split
    · simp_all
    · rename_i b' rest' hb
      rw [hmember] at hb
      cases hb
      rfl

theorem field_run (name : String) {r : Reader α} {a : α} (h : r.run s = .ok (a, rest)) :
    (field name none r).run (Octet.colon :: s) = .ok (some a, rest) := by
  have hcolon : readColon.run (Octet.colon :: s) = .ok ((), s) := rfl
  simp only [field, Option.isSome_none, Bool.false_eq_true, if_false, run_bind, hcolon, h,
    run_pure]

theorem record_run (wanted : String) (fromList fromObject : Reader α) (s : Bytes) :
    (record wanted fromList fromObject).run (Octet.openObject :: s) = fromObject.run s := rfl

end BearerAuth.Json
