import BearerAuth.Proofs.Json.Fields
import BearerAuth.Token.Claims

/-!
# Headers and payloads read from any object

Which values the names of a record have decides what is read of an object, and nothing else does
(`Payload.read_iff`, `Header.read_iff`). So members may come in any order, with others between them
(`claims_read_in_any_order`).
-/

namespace BearerAuth.Json.ObjectText

open Reader

variable {α : Type} (o : ObjectText)

/-- What stands after the opening bracket. -/
def inside : Bytes :=
  o.blanks.val ++ (joined (o.members.map Member.octets) ++ Octet.closeObject :: o.after.val)

/-- A record is read from an object up to the blanks after it. -/
theorem whole_record_iff {wanted : String} {fromList fromObject : Reader α} {a : α} :
    (record wanted fromList fromObject).whole o.octets = .ok a ↔
      ∃ rest, fromObject.run o.inside = .ok (a, rest) ∧ IsBlanks rest := by
  have hblanks : (record wanted fromList fromObject).PassesBlanks := passesBlanks_symbol_bind _
  rw [whole_eq_ok_iff, octets, hblanks o.before.property, record_run]
  rfl

/-- Each member by what its key denotes, with its value. -/
def pairs : List (String × Bytes) :=
  o.members.map fun m => (m.key.denoted, m.item.value)

theorem valuesOf_eq (name : String) :
    o.valuesOf name = (o.pairs.filter (·.1 = name)).map (·.2) := by
  simp [valuesOf, Member.valuesOf, pairs, List.filter_map, Function.comp_def]

variable {o} {o' : ObjectText}

theorem valuesOf_perm (h : o.pairs.Perm o'.pairs) (name : String) :
    (o.valuesOf name).Perm (o'.valuesOf name) := by
  rw [valuesOf_eq, valuesOf_eq]
  exact (h.filter _).map _

end BearerAuth.Json.ObjectText

namespace BearerAuth.Token

open Json Reader

/-- The values of a name stand for something that may be absent. -/
def SaysOrElse {α : Type} (denotes : Bytes → α → Prop) (absent : α) (vs : List Bytes) (a : α) :
    Prop :=
  (vs = [] ∧ a = absent) ∨ ∃ v, vs = [v] ∧ denotes v a

/-- The values of a name stand for something that must be there. -/
def Says {α : Type} (denotes : Bytes → α → Prop) (vs : List Bytes) (a : α) : Prop :=
  ∃ v, vs = [v] ∧ denotes v a

section Says

variable {α : Type} {denotes : Bytes → α → Prop} {absent a : α} {vs ws : List Bytes}

theorem exists_holds_getD_iff :
    (∃ x, Holds denotes none vs x ∧ a = x.getD absent) ↔ SaysOrElse denotes absent vs a := by
  simp only [holds_none_iff]
  constructor
  · rintro ⟨x, ⟨hvs, rfl⟩ | ⟨v, b, hvs, hb, rfl⟩, rfl⟩
    · exact .inl ⟨hvs, rfl⟩
    · exact .inr ⟨v, hvs, hb⟩
  · rintro (⟨hvs, rfl⟩ | ⟨v, hvs, ha⟩)
    · exact ⟨none, .inl ⟨hvs, rfl⟩, rfl⟩
    · exact ⟨some a, .inr ⟨v, a, hvs, ha, rfl⟩, rfl⟩

theorem holds_some_iff : Holds denotes none vs (some a) ↔ Says denotes vs a := by
  rw [holds_none_iff]
  constructor
  · rintro (⟨-, h⟩ | ⟨v, b, hvs, hb, h⟩)
    · cases h
    · cases h
      exact ⟨v, hvs, hb⟩
  · rintro ⟨v, hvs, ha⟩
    exact .inr ⟨v, a, hvs, ha, rfl⟩

theorem says_congr (h : vs.Perm ws) : Says denotes vs a ↔ Says denotes ws a := by
  have hsingle : ∀ v, vs = [v] ↔ ws = [v] := fun v => by
    rw [← List.perm_singleton, ← List.perm_singleton, h.congr_left]
  simp only [Says, hsingle]

theorem saysOrElse_congr (h : vs.Perm ws) :
    SaysOrElse denotes absent vs a ↔ SaysOrElse denotes absent ws a := by
  have hnil : vs = [] ↔ ws = [] := by rw [← List.perm_nil, ← List.perm_nil, h.congr_left]
  exact or_congr (and_congr_left fun _ => hnil) (says_congr h)

end Says

variable (o : ObjectText)

theorem Payload.read_iff (p : Payload) : Payload.read.whole o.octets = .ok p ↔
    SaysOrElse DenotesText "" (o.valuesOf "iss") p.iss
      ∧ SaysOrElse DenotesInteger 0 (o.valuesOf "iat") p.iat := by
  have hmembers : ∀ {x rest}, (members readMember (none, none)).run o.inside = .ok (x, rest) ↔
      Holds DenotesText none (o.valuesOf "iss") x.1
        ∧ Holds DenotesInteger none (o.valuesOf "iat") x.2 ∧ rest = o.after.val :=
    members_iff reads_readString reads_readInt64 (by decide) o.values o.blanks.property
  rw [read, ObjectText.whole_record_iff, ← exists_holds_getD_iff, ← exists_holds_getD_iff]
  constructor
  · rintro ⟨rest, hread, -⟩
    obtain ⟨⟨iss, iat⟩, t, hpairs, hread⟩ := run_bind_eq_ok_iff.1 hread
    cases hread
    obtain ⟨hiss, hiat, -⟩ := hmembers.1 hpairs
    exact ⟨⟨iss, hiss, rfl⟩, ⟨iat, hiat, rfl⟩⟩
  · obtain ⟨_, _⟩ := p
    rintro ⟨⟨iss, hiss, rfl⟩, ⟨iat, hiat, rfl⟩⟩
    exact ⟨o.after.val, run_bind_eq_ok_iff.2 ⟨(iss, iat), _, hmembers.2 ⟨hiss, hiat, rfl⟩, rfl⟩,
      o.after.property⟩

theorem required_iff {α : Type} {name : String} {seen : Option α} {a : α} {s rest : Bytes} :
    (required name seen).run s = .ok (a, rest) ↔ seen = some a ∧ rest = s := by
  cases seen <;> simp [required, refuse, eq_comm]

theorem Header.read_iff (h : Header) : Header.read.whole o.octets = .ok h ↔
    Says DenotesText (o.valuesOf "alg") h.alg ∧ Says DenotesText (o.valuesOf "kid") h.kid := by
  have hmembers : ∀ {x rest}, (members readMember (none, none)).run o.inside = .ok (x, rest) ↔
      Holds DenotesText none (o.valuesOf "alg") x.1
        ∧ Holds DenotesText none (o.valuesOf "kid") x.2 ∧ rest = o.after.val :=
    members_iff reads_readString reads_readString (by decide) o.values o.blanks.property
  rw [read, ObjectText.whole_record_iff, ← holds_some_iff, ← holds_some_iff]
  constructor
  · rintro ⟨rest, hread, -⟩
    obtain ⟨⟨alg, kid⟩, t, hpairs, hread⟩ := run_bind_eq_ok_iff.1 hread
    obtain ⟨halg, hkid, -⟩ := hmembers.1 hpairs
    obtain ⟨alg', t', hread', hread⟩ := run_bind_eq_ok_iff.1 hread
    obtain ⟨kid', t'', hread'', hread⟩ := run_bind_eq_ok_iff.1 hread
    obtain ⟨rfl, -⟩ := required_iff.1 hread'
    obtain ⟨rfl, -⟩ := required_iff.1 hread''
    cases hread
    exact ⟨halg, hkid⟩
  · rintro ⟨halg, hkid⟩
    exact ⟨o.after.val, run_bind_eq_ok_iff.2 ⟨(some h.alg, some h.kid), _,
      hmembers.2 ⟨halg, hkid, rfl⟩, rfl⟩, o.after.property⟩

theorem toOption_congr {α : Type} {e e' : Except ReadError α}
    (h : ∀ a, e = .ok a ↔ e' = .ok a) : e.toOption = e'.toOption := by
  rcases e with e | a
  · rcases e' with e' | a
    · rfl
    · cases (h a).2 rfl
  · rw [(h a).1 rfl]

/-- A payload is read from an object exactly if the members of each of its names are at most one,
the issuer's a string and the time's an integer of 64 bits; what is absent is empty or zero. A
header is read exactly if the members of each of its names are just one and a string. Neither the
order of the members nor any others matter, nor how their keys are written. -/
theorem claims_read_in_any_order :
    (∀ (o : ObjectText) (p : Payload), Payload.read.whole o.octets = .ok p ↔
      SaysOrElse DenotesText "" (o.valuesOf "iss") p.iss
        ∧ SaysOrElse DenotesInteger 0 (o.valuesOf "iat") p.iat)
    ∧ (∀ (o : ObjectText) (h : Header), Header.read.whole o.octets = .ok h ↔
      Says DenotesText (o.valuesOf "alg") h.alg ∧ Says DenotesText (o.valuesOf "kid") h.kid)
    ∧ ∀ o o' : ObjectText, o.pairs.Perm o'.pairs →
      (Payload.read.whole o.octets).toOption = (Payload.read.whole o'.octets).toOption
        ∧ (Header.read.whole o.octets).toOption = (Header.read.whole o'.octets).toOption := by
  refine ⟨fun o p => p.read_iff o, fun o h => h.read_iff o, fun o o' hpairs => ⟨?_, ?_⟩⟩
  · refine toOption_congr fun p => ?_
    rw [p.read_iff o, p.read_iff o']
    exact and_congr (saysOrElse_congr (ObjectText.valuesOf_perm hpairs "iss"))
      (saysOrElse_congr (ObjectText.valuesOf_perm hpairs "iat"))
  · refine toOption_congr fun h => ?_
    rw [h.read_iff o, h.read_iff o']
    exact and_congr (says_congr (ObjectText.valuesOf_perm hpairs "alg"))
      (says_congr (ObjectText.valuesOf_perm hpairs "kid"))

end BearerAuth.Token
