import BearerAuth.Token.Provider

/-!
# Calls one after another

`Provider.tokens` takes calls one after another. A call ends as its exclusive section alone would
(`token_eq_renew`): the first look only spares the lock. Headers and payloads always have a written
form, so a call that finds no valid token ends as the signer and the range of dates decide
(`mint_eq`).

A recorded signer keeps the list of its calls besides its own state, and nothing else changes
(`mint_recorded`).
-/

namespace BearerAuth

variable {σ : Type}

/-- What a signer was asked for, and what it answered. -/
abbrev SigningCall := Bytes × Except SigningError Bytes

/-- A signer that also keeps the list of its calls. -/
def Signer.recorded (s : Signer σ) : Signer (σ × List SigningCall) :=
  ⟨fun input state =>
    ((s.sign input state.1).1, (s.sign input state.1).2,
      state.2 ++ [(input, (s.sign input state.1).1)])⟩

namespace Token

open Time

theorem Header.exists_write (h : Header) : ∃ b, h.toJson.write = .ok b :=
  ⟨_, rfl⟩

theorem Payload.exists_write (p : Payload) : ∃ b, p.toJson.write = .ok b := by
  unfold Payload.toJson
  by_cases hiss : p.iss = "" <;> by_cases hiat : p.iat = 0 <;> simp only [hiss, hiat, if_true,
    if_false] <;> exact ⟨_, rfl⟩

theorem encode_recorded (s : Signer σ) (header payload : Json.Value)
    (state : σ × List SigningCall) :
    encode s header payload state.1 =
      ((encode s.recorded header payload state).1,
        (encode s.recorded header payload state).2.1) := by
  unfold encode
  rcases header.write with _ | header
  · rfl
  rcases payload.write with _ | payload
  · rfl
  simp only [Signer.recorded]
  rcases s.sign (octets (signingInput header payload)) state.1 with ⟨_ | _, _⟩ <;> rfl

namespace Provider

variable (p : Provider σ)

theorem lookup_eq_none {slot : Option CachedToken} {now : Instant} :
    lookup slot now = none ↔ ∀ c ∈ slot, c.expiresAt.nanos ≤ now.nanos := by
  rcases slot with _ | c
  · simp [lookup]
  · simp [lookup, CachedToken.isValidAt, Instant.isBefore]

theorem lookup_some {c : CachedToken} {now : Instant} (h : now.nanos < c.expiresAt.nanos) :
    lookup (some c) now = some c.token := by
  simp only [lookup, CachedToken.isValidAt, Instant.isBefore, h, decide_true, Option.filter_some,
    if_true, Option.map_some]

/-- What becomes of a call that mints hangs on the signer, which is asked once, and then on the
range of dates. -/
theorem mint_eq {now : Instant} {header payload : Bytes}
    (hheader : p.header.toJson.write = .ok header)
    (hpayload : (p.payload now).toJson.write = .ok payload) (state : σ) : p.mint now state =
      match p.signer.sign (octets (signingInput header payload)) state with
      | (.error e, state) => (.failed (.signing e), state)
      | (.ok signature, state) =>
        match now.add? p.ttl with
        | some expiresAt =>
          (.minted ⟨⟨String.ofList (Segments.compact ⟨header, payload, signature⟩)⟩, now,
            expiresAt⟩, state)
        | none => (.outOfRange, state) := by
  simp only [mint, encode, hheader, hpayload]
  rcases p.signer.sign (octets (signingInput header payload)) state with ⟨_ | _, _⟩ <;> rfl

theorem exists_write (now : Instant) : ∃ header payload,
    p.header.toJson.write = .ok header ∧ (p.payload now).toJson.write = .ok payload := by
  obtain ⟨header, hheader⟩ := Header.exists_write p.header
  obtain ⟨payload, hpayload⟩ := Payload.exists_write (p.payload now)
  exact ⟨header, payload, hheader, hpayload⟩

theorem mint_minted {now : Instant} {state state' : σ} {c : CachedToken}
    (h : p.mint now state = (.minted c, state')) :
    c.issuedAt = now ∧ now.add? p.ttl = some c.expiresAt := by
  unfold mint at h
  split at h
  · simp at h
  · split at h
    · rename_i hadd
      simp only [Prod.mk.injEq, Answer.minted.injEq] at h
      obtain ⟨rfl, -⟩ := h
      exact ⟨rfl, hadd⟩
    · simp at h

theorem token_eq_renew (now : Instant) (state : State σ) :
    p.token now state = p.renew now state := by
  unfold token
  split
  · rename_i token h
    simp only [renew, h]
  · rfl

/-- Calls one after another. -/
def tokens : List Instant → State σ → List Answer × State σ
  | [], state => ([], state)
  | now :: later, state =>
    let (answer, state) := p.token now state
    let (answers, state) := tokens later state
    (answer :: answers, state)

theorem tokens_concat (now : Instant) : ∀ (nows : List Instant) (state : State σ),
    p.tokens (nows ++ [now]) state =
      ((p.tokens nows state).1 ++ [(p.token now (p.tokens nows state).2).1],
        (p.token now (p.tokens nows state).2).2)
  | [], state => rfl
  | earlier :: nows, state => by
    simp only [List.cons_append, tokens, tokens_concat now nows]

/-- Once a token is kept that is valid at an instant, calls at that instant get it. -/
theorem tokens_replicate_of_lookup {now : Instant} {state : State σ} {token : Secret}
    (h : lookup state.slot now = some token) :
    ∀ n, p.tokens (List.replicate n now) state = (List.replicate n (.cached token), state)
  | 0 => rfl
  | n + 1 => by
    have hstep : p.token now state = (.cached token, state) := by simp only [Provider.token, h]
    simp only [List.replicate_succ, tokens, hstep, tokens_replicate_of_lookup h n]

/-- Calls at one instant, of which the first mints a token that is valid then: all others get
that token. -/
theorem tokens_replicate_of_mint {now : Instant} {state : State σ} {c : CachedToken} {signer : σ}
    (hslot : lookup state.slot now = none) (hmint : p.mint now state.signer = (.minted c, signer))
    (hvalid : now.nanos < c.expiresAt.nanos) (n : Nat) :
    p.tokens (List.replicate (n + 1) now) state =
      (.minted c :: List.replicate n (.cached c.token), ⟨some c, signer⟩) := by
  have hstep : p.token now state = (.minted c, ⟨some c, signer⟩) := by
    simp only [Provider.token, renew, hslot, hmint, kept]
  have hlater : lookup (⟨some c, signer⟩ : State σ).slot now = some c.token := lookup_some hvalid
  simp only [List.replicate_succ, tokens, hstep, tokens_replicate_of_lookup p hlater n]

def recorded : Provider (σ × List SigningCall) :=
  ⟨p.keyId, p.issuer, p.ttl, p.signer.recorded⟩

def State.recorded (state : State σ) : State (σ × List SigningCall) :=
  ⟨state.slot, state.signer, []⟩

def State.unrecorded (state : State (σ × List SigningCall)) : State σ :=
  ⟨state.slot, state.signer.1⟩

/-- What the signer is asked and answers when calls come one after another. -/
def signings (nows : List Instant) (state : State σ) : List SigningCall :=
  (p.recorded.tokens nows state.recorded).2.signer.2

theorem mint_recorded (now : Instant) (state : σ × List SigningCall) :
    p.mint now state.1 = ((p.recorded.mint now state).1, (p.recorded.mint now state).2.1) := by
  have henc :
      encode p.recorded.signer p.recorded.header.toJson (p.recorded.payload now).toJson state
        = encode p.signer.recorded p.header.toJson (p.payload now).toJson state := rfl
  have httl : p.recorded.ttl = p.ttl := rfl
  simp only [mint, encode_recorded, henc, httl]
  rcases encode p.signer.recorded p.header.toJson (p.payload now).toJson state with ⟨_ | _, _⟩
  · rfl
  · rcases now.add? p.ttl with _ | _ <;> rfl

/-- Where the signer signs and the expiry is in range, a token is minted at one call of the
signer. -/
theorem exists_mint_recorded_minted {now expiresAt : Instant} {state : σ}
    (hsigner : ∀ input, ∃ signature, (p.signer.sign input state).1 = .ok signature)
    (hexpiry : now.add? p.ttl = some expiresAt) : ∃ c signer call,
      p.recorded.mint now (state, []) = (.minted c, signer, [call]) ∧ c.expiresAt = expiresAt := by
  obtain ⟨header, payload, hheader, hpayload⟩ := p.recorded.exists_write now
  obtain ⟨signature, hsign⟩ := hsigner (octets (signingInput header payload))
  have hrecorded : p.recorded.signer.sign (octets (signingInput header payload)) (state, []) =
      (.ok signature, (p.signer.sign (octets (signingInput header payload)) state).2,
        [(octets (signingInput header payload), .ok signature)]) := by
    simp only [recorded, Signer.recorded, hsign, List.nil_append]
  have httl : p.recorded.ttl = p.ttl := rfl
  rw [p.recorded.mint_eq hheader hpayload, hrecorded]
  simp only [httl, hexpiry]
  exact ⟨_, _, _, rfl, rfl⟩

/-- A provider whose signatures are the numbers of its signer's calls. -/
def numbering : Provider SigningStation :=
  ⟨"kid", "iss", defaultTtl, SigningMethod.counter.toSigner⟩

end Provider

def epoch : Instant := ⟨0, 0, by decide, by decide⟩

end Token

end BearerAuth
