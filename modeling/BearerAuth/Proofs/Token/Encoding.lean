import BearerAuth.Proofs.Token.Agreement
import Mathlib.Data.List.DropRight

/-!
# Encoding

A token is encoded in three stages: the header is written, the payload is written, and the two are
signed. Encoding fails with the error of the first stage that fails (`encode_eq_error_iff`), and
ends in a token when none does (`encode_eq_ok_iff`). A recorded signer, for which encoding ends as
it does without the record (`encode_recorded`), tells what the signer is asked: one thing if both
parts are written, the text before the last point of the token, and nothing otherwise
(`encodeSignings_of_write`, `signer_idle`).
-/

namespace BearerAuth.Token

/-- The part of a text before its last point. -/
def beforeLastPoint (text : List Char) : List Char :=
  (text.rdropWhile (· ≠ '.')).dropLast

theorem beforeLastPoint_append {front last : List Char} (h : '.' ∉ last) :
    beforeLastPoint (front ++ '.' :: last) = front := by
  have hdrop : (front ++ '.' :: last).rdropWhile (· ≠ '.') = front ++ ['.'] := by
    induction last using List.reverseRecOn with
    | nil => exact List.rdropWhile_concat_neg _ _ _ (by decide)
    | append_singleton last c ih =>
      simp only [List.mem_append, List.mem_singleton, not_or] at h
      rw [← List.cons_append, ← List.append_assoc, List.rdropWhile_concat_pos]
      · exact ih h.1
      · simpa using fun hc : c = '.' => h.2 hc.symm
  rw [beforeLastPoint, hdrop, List.dropLast_concat]

theorem beforeLastPoint_compact (s : Segments) :
    beforeLastPoint s.compact = signingInput s.header s.payload :=
  beforeLastPoint_append (point_not_mem_segment s.signature)

/-- What is signed for a header and a payload that have been written. -/
def signedOctets (header payload : Bytes) : Bytes :=
  Bytes.ofText (String.ofList (Base64.encode .url header ++ '.' :: Base64.encode .url payload))

theorem signedOctets_eq (header payload : Bytes) :
    signedOctets header payload = octets (signingInput header payload) :=
  ofText_signingInput header payload

variable {σ : Type} (signer : Signer σ) (header payload : Json.Value) (state : σ)

/-- Either a part is not written, and then the first such part counts, or both are. -/
theorem write_cases :
    (∃ w, header.write = .error w) ∨ (∃ h w, header.write = .ok h ∧ payload.write = .error w)
      ∨ ∃ h p, header.write = .ok h ∧ payload.write = .ok p := by
  rcases header.write with w | h
  · exact .inl ⟨w, rfl⟩
  rcases payload.write with w | p
  · exact .inr (.inl ⟨h, w, rfl, rfl⟩)
  · exact .inr (.inr ⟨h, p, rfl, rfl⟩)

/-- What the signer is asked and answers while a token is encoded. -/
def encodeSignings : List SigningCall :=
  (encode signer.recorded header payload (state, [])).2.2

section Stages

variable {header payload} {h p : Bytes} {w : Json.WriteError}

theorem encode_of_header_error (hheader : header.write = .error w) :
    encode signer header payload state = (.error (.encoding (.header w)), state) := by
  simp only [encode, hheader]

theorem encode_of_payload_error (hheader : header.write = .ok h)
    (hpayload : payload.write = .error w) :
    encode signer header payload state = (.error (.encoding (.payload w)), state) := by
  simp only [encode, hheader, hpayload]

theorem encode_of_write (hheader : header.write = .ok h) (hpayload : payload.write = .ok p) :
    encode signer header payload state =
      (match (signer.sign (signedOctets h p) state).1 with
        | .error e => .error (.signing e)
        | .ok signature => .ok (Segments.compact ⟨h, p, signature⟩),
      (signer.sign (signedOctets h p) state).2) := by
  simp only [encode, hheader, hpayload, signedOctets_eq]
  rcases signer.sign (octets (signingInput h p)) state with ⟨_ | _, _⟩ <;> rfl

theorem encodeSignings_of_write (hheader : header.write = .ok h)
    (hpayload : payload.write = .ok p) : encodeSignings signer header payload state =
      [(signedOctets h p, (signer.sign (signedOctets h p) state).1)] := by
  rw [encodeSignings, encode_of_write _ _ hheader hpayload]
  rfl

theorem signer_idle (hwrite : ∀ h p, ¬(header.write = .ok h ∧ payload.write = .ok p)) :
    encodeSignings signer header payload state = []
      ∧ (encode signer header payload state).2 = state := by
  rcases write_cases header payload with ⟨w, hw⟩ | ⟨h, w, hh, hw⟩ | ⟨h, p, hboth⟩
  · simp only [encodeSignings, encode_of_header_error _ _ hw, and_self]
  · simp only [encodeSignings, encode_of_payload_error _ _ hh hw, and_self]
  · exact absurd hboth (hwrite h p)

end Stages

variable {header payload state}

theorem encode_eq_ok_iff {t : List Char} : (encode signer header payload state).1 = .ok t ↔
    ∃ h p signature, header.write = .ok h ∧ payload.write = .ok p
      ∧ (signer.sign (signedOctets h p) state).1 = .ok signature
      ∧ t = Segments.compact ⟨h, p, signature⟩ := by
  rcases write_cases header payload with ⟨w, hw⟩ | ⟨h, w, hh, hw⟩ | ⟨h, p, hh, hp⟩
  · simp [encode_of_header_error _ _ hw, hw]
  · simp [encode_of_payload_error _ _ hh hw, hw]
  · rw [encode_of_write _ _ hh hp]
    rcases hsign : (signer.sign (signedOctets h p) state).1 with f | signature <;>
      simp [hh, hp, hsign, eq_comm]

theorem encode_eq_error_iff {e : Error} : (encode signer header payload state).1 = .error e ↔
    (∃ w, header.write = .error w ∧ e = .encoding (.header w))
      ∨ (∃ h w, header.write = .ok h ∧ payload.write = .error w ∧ e = .encoding (.payload w))
      ∨ ∃ h p f, header.write = .ok h ∧ payload.write = .ok p
        ∧ (signer.sign (signedOctets h p) state).1 = .error f ∧ e = .signing f := by
  rcases write_cases header payload with ⟨w, hw⟩ | ⟨h, w, hh, hw⟩ | ⟨h, p, hh, hp⟩
  · simp [encode_of_header_error _ _ hw, hw, eq_comm]
  · simp [encode_of_payload_error _ _ hh hw, hh, hw, eq_comm]
  · rw [encode_of_write _ _ hh hp]
    rcases hsign : (signer.sign (signedOctets h p) state).1 with f | signature <;>
      simp [hh, hp, hsign, eq_comm]

/-- A token is read back as what was written and signed, and what was signed is the token up to its
last point. -/
theorem read?_of_encode {t : List Char} (ht : (encode signer header payload state).1 = .ok t) :
    ∃ h p signature, header.write = .ok h ∧ payload.write = .ok p
      ∧ Segments.read? t = some ⟨h, p, signature⟩
      ∧ encodeSignings signer header payload state =
        [(Bytes.ofText (String.ofList (beforeLastPoint t)), .ok signature)] := by
  obtain ⟨h, p, signature, hh, hp, hsign, rfl⟩ := (encode_eq_ok_iff signer).1 ht
  refine ⟨h, p, signature, hh, hp, Segments.read?_compact _, ?_⟩
  rw [encodeSignings_of_write signer state hh hp, hsign, beforeLastPoint_compact]
  rfl

/-- The whole of encoding, for every header, payload and signer: when it ends in a token and which;
with which error it fails; when the signer is asked, and for what; and what is read back, down to
the fields of a header and a payload. -/
theorem encode_exact (signer : Signer σ) (header payload : Json.Value) (state : σ) :
    (∀ t, (encode signer header payload state).1 = .ok t ↔ ∃ h p signature,
      header.write = .ok h ∧ payload.write = .ok p
      ∧ (signer.sign (signedOctets h p) state).1 = .ok signature
      ∧ t = Base64.encode .url h ++ '.' :: Base64.encode .url p
        ++ '.' :: Base64.encode .url signature)
    ∧ (∀ e, (encode signer header payload state).1 = .error e ↔
      (∃ w, header.write = .error w ∧ e = .encoding (.header w))
      ∨ (∃ h w, header.write = .ok h ∧ payload.write = .error w ∧ e = .encoding (.payload w))
      ∨ ∃ h p f, header.write = .ok h ∧ payload.write = .ok p
        ∧ (signer.sign (signedOctets h p) state).1 = .error f ∧ e = .signing f)
    ∧ (∀ h p, header.write = .ok h → payload.write = .ok p →
      encodeSignings signer header payload state
          = [(signedOctets h p, (signer.sign (signedOctets h p) state).1)]
        ∧ (encode signer header payload state).2 = (signer.sign (signedOctets h p) state).2)
    ∧ ((∀ h p, ¬(header.write = .ok h ∧ payload.write = .ok p)) →
      encodeSignings signer header payload state = []
        ∧ (encode signer header payload state).2 = state)
    ∧ (∀ t, (encode signer header payload state).1 = .ok t → ∃ h p signature,
      header.write = .ok h ∧ payload.write = .ok p
      ∧ Segments.read? t = some ⟨h, p, signature⟩
      ∧ encodeSignings signer header payload state
        = [(Bytes.ofText (String.ofList (beforeLastPoint t)), .ok signature)])
    ∧ ∀ (header : Header) (payload : Payload), ∃ h p,
      header.toJson.write = .ok h ∧ payload.toJson.write = .ok p
      ∧ ∀ t, (encode signer header.toJson payload.toJson state).1 = .ok t →
        ∃ s, Segments.read? t = some s ∧ Header.read.whole s.header = .ok header
          ∧ Payload.read.whole s.payload = .ok payload := by
  refine ⟨fun t => encode_eq_ok_iff signer, fun e => encode_eq_error_iff signer,
    fun h p hh hp => ⟨encodeSignings_of_write signer state hh hp, ?_⟩, signer_idle signer state,
    fun t => read?_of_encode signer, fun header payload => ?_⟩
  · rw [encode_of_write signer state hh hp]
  · obtain ⟨h, hh⟩ := header.exists_write
    obtain ⟨p, hp⟩ := payload.exists_write
    refine ⟨h, p, hh, hp, fun t ht => ?_⟩
    obtain ⟨h', p', signature, hh', hp', hread, -⟩ := read?_of_encode signer ht
    exact ⟨_, hread, Header.read_write hh', Payload.read_write hp'⟩

-- a payload that leaves out both of its fields, and a signature of no octets
example : (encode (SigningMethod.constant []).toSigner (Header.es256 "k").toJson
    Payload.empty.toJson {}).1 = .ok "eyJhbGciOiJFUzI1NiIsImtpZCI6ImsifQ.e30.".toList := by
  rfl

end BearerAuth.Token
