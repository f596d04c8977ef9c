import BearerAuth.Proofs.Json.Number
import BearerAuth.Proofs.Json.Record
import BearerAuth.Token.Claims

/-!
# Headers and payloads read back

Every header and every payload is read back from its written form, whatever characters its texts
are of, and where a payload leaves out an empty issuer or the second zero as well.
-/

namespace BearerAuth.Token

open Json Reader

namespace Header

theorem write_toJson (h : Header) : h.toJson.write = .ok (Octet.openObject
    :: (memberText true "alg" (writeString h.alg)
      ++ (memberText false "kid" (writeString h.kid) ++ [Octet.closeObject]))) := by
  show Except.ok _ = _
  simp [joined, memberText, separator]

theorem readMember_alg (kid : Option String) (alg : String) (rest : Bytes) :
    (readMember (none, kid) "alg").run (Octet.colon :: (writeString alg ++ rest))
      = .ok ((some alg, kid), rest) := by
  have hfield := field_run "alg" (readString_writeString alg rest)
  rw [readMember, if_pos rfl, run_bind, hfield]
  rfl

theorem readMember_kid (alg : Option String) (kid : String) (rest : Bytes) :
    (readMember (alg, none) "kid").run (Octet.colon :: (writeString kid ++ rest))
      = .ok ((alg, some kid), rest) := by
  have hfield := field_run "kid" (readString_writeString kid rest)
  rw [readMember, if_neg (by decide), if_pos rfl, run_bind, hfield]
  rfl

/-- A header is read back from its written form. -/
theorem read_write {h : Header} {b : Bytes} (hb : h.toJson.write = .ok b) :
    read.whole b = .ok h := by
  rw [write_toJson] at hb
  cases hb
  refine whole_run ?_
  have hmembers : (members readMember (none, none)).run (memberText true "alg" (writeString h.alg)
      ++ (memberText false "kid" (writeString h.kid) ++ [Octet.closeObject]))
      = .ok ((some h.alg, some h.kid), []) := by
    show membersFrom _ _ _ _ = _
    rw [membersFrom_memberText (readMember_alg none h.alg _),
      membersFrom_memberText (readMember_kid (some h.alg) h.kid _), membersFrom_close]
  rw [read, record_run, fromObject, run_bind, hmembers]
  rfl

end Header

namespace Payload

theorem readMember_iss (iat : Option Int64) (iss : String) (rest : Bytes) :
    (readMember (none, iat) "iss").run (Octet.colon :: (writeString iss ++ rest))
      = .ok ((some iss, iat), rest) := by
  have hfield := field_run "iss" (readString_writeString iss rest)
  rw [readMember, if_pos rfl, run_bind, hfield]
  rfl

theorem readMember_iat (iss : Option String) (iat : Int64) {rest : Bytes} (h : Number.Ends rest) :
    (readMember (iss, none) "iat").run (Octet.colon :: (Bytes.ofText iat.toInt.repr ++ rest))
      = .ok ((iss, some iat), rest) := by
  have hfield := field_run "iat" (readInt64_repr h iat)
  rw [readMember, if_neg (by decide), if_pos rfl, run_bind, hfield]
  rfl

/-- The written members of a payload, up to the closing bracket. -/
def membersText (p : Payload) : Bytes :=
  (if p.iss = "" then [] else memberText true "iss" (writeString p.iss))
    ++ ((if p.iat = 0 then [] else
      memberText (p.iss = "") "iat" (Bytes.ofText p.iat.toInt.repr)) ++ [Octet.closeObject])

theorem write_toJson (p : Payload) : p.toJson.write = .ok (Octet.openObject :: p.membersText) := by
  obtain ⟨iss, iat⟩ := p
  unfold toJson membersText
  by_cases hiss : iss = "" <;> by_cases hiat : iat = 0 <;>
    simp only [hiss, hiat, if_true, if_false] <;> show Except.ok _ = _ <;>
    simp [joined, memberText, separator]

/-- A payload is read back from its written form, what it leaves out included. -/
theorem read_write {p : Payload} {b : Bytes} (hb : p.toJson.write = .ok b) :
    read.whole b = .ok p := by
  rw [write_toJson] at hb
  cases hb
  obtain ⟨iss, iat⟩ := p
  have hends : Number.Ends [Octet.closeObject] := by
    intro x hx
    cases hx
    decide
  have hiat : ∀ first seen, membersFrom readMember first (seen, none) ((if iat = 0 then [] else
      memberText first "iat" (Bytes.ofText iat.toInt.repr)) ++ [Octet.closeObject])
        = .ok ((seen, if iat = 0 then none else some iat), []) := by
    intro first seen
    split_ifs with h
    · exact membersFrom_close _ _ _ _
    · rw [membersFrom_memberText (readMember_iat seen iat hends), membersFrom_close]
  refine whole_run ?_
  have hmembers : (members readMember (none, none)).run (membersText ⟨iss, iat⟩)
      = .ok ((if iss = "" then none else some iss, if iat = 0 then none else some iat), []) := by
    show membersFrom _ _ _ _ = _
    unfold membersText
    by_cases hiss : iss = ""
    · simp only [hiss, if_true, decide_true, List.nil_append, hiat]
    · simp only [hiss, if_false, decide_false]
      rw [membersFrom_memberText (readMember_iss none iss _), hiat]
  rw [read, record_run, fromObject, run_bind, hmembers]
  by_cases hiss : iss = "" <;> by_cases hzero : iat = 0 <;> simp [hiss, hzero]

end Payload

end BearerAuth.Token
