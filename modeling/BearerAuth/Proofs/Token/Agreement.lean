import BearerAuth.Proofs.Token.Claims
import BearerAuth.Proofs.Token.Compact
import BearerAuth.Proofs.Token.Linearization
import BearerAuth.Proofs.Token.MintSpacing

/-!
# Tokens and what they say

A token is made in one step of one call, with one call of the signer (`Agrees`): it can be read back
as header and payload of its provider, and its signature is what the signer answered. What is kept
was made in some step of the run (`exists_mint_of_slot`), so the kept token and its instants always
fit together.
-/

namespace BearerAuth.Token

open Time

variable {σ : Type} (p : Provider σ)

/-- The first two segments of a token, with the point between them. -/
def signedText (token : Secret) : List Char :=
  ['.'].intercalate ((Segments.parts token.exposed.toList).take 2)

/-- A token reads as some segments that say what its provider and its instant of issue say, and
that carry the answer of one call of the signer. -/
structure CachedToken.Agrees (c : CachedToken) (s : Segments) (call : SigningCall) : Prop where
  expiry : c.issuedAt.add? p.ttl = some c.expiresAt
  read : Segments.read? c.token.exposed.toList = some s
  header : Header.read.whole s.header = .ok ⟨"ES256", p.keyId⟩
  payload : ∃ iat, Payload.read.whole s.payload = .ok ⟨p.issuer, iat⟩
    ∧ iat.toInt * 1000000000 ≤ c.issuedAt.nanos
    ∧ c.issuedAt.nanos < (iat.toInt + 1) * 1000000000
  signature : call = (Bytes.ofText (String.ofList (signedText c.token)), .ok s.signature)

theorem toNat_of_mem_segment {b : Bytes} {c : Char} (h : c ∈ segment b) :
    32 < c.toNat ∧ c.toNat < 127 := by
  obtain ⟨n, hn, rfl⟩ := Base64.exists_symbol_of_mem_encode .url h
  have hall : ∀ m : Fin 64, 32 < (Base64.Alphabet.url.symbol m).toNat
      ∧ (Base64.Alphabet.url.symbol m).toNat < 127 := by decide
  exact hall ⟨n, hn⟩

theorem toNat_of_mem_signingInput {header payload : Bytes} {c : Char}
    (h : c ∈ signingInput header payload) : 32 < c.toNat ∧ c.toNat < 127 := by
  simp only [signingInput, List.mem_append, List.mem_cons] at h
  rcases h with h | rfl | h
  · exact toNat_of_mem_segment h
  · decide
  · exact toNat_of_mem_segment h

theorem ofText_signingInput (header payload : Bytes) :
    Bytes.ofText (String.ofList (signingInput header payload))
      = octets (signingInput header payload) := by
  refine Bytes.ofText_ofList_of_ascii fun c hc => ?_
  have := toNat_of_mem_signingInput hc
  omega

theorem signedText_compact (s : Segments) :
    signedText ⟨String.ofList s.compact⟩ = signingInput s.header s.payload := by
  simp [signedText, Segments.parts_compact, signingInput, List.intercalate]

theorem iat_payload (now : Instant) :
    (p.payload now).iat.toInt * 1000000000 ≤ now.nanos
      ∧ now.nanos < ((p.payload now).iat.toInt + 1) * 1000000000 := by
  have hiat : (p.payload now).iat.toInt = now.nanos / 1000000000 := now.toInt_ofInt_unixSeconds
  rw [hiat]
  omega

theorem agrees_of_write {header payload signature : Bytes} {now expiresAt : Instant}
    (hheader : p.header.toJson.write = .ok header)
    (hpayload : (p.payload now).toJson.write = .ok payload)
    (hexpiry : now.add? p.ttl = some expiresAt) :
    (CachedToken.mk ⟨String.ofList (Segments.compact ⟨header, payload, signature⟩)⟩ now
      expiresAt).Agrees p ⟨header, payload, signature⟩
        (octets (signingInput header payload), .ok signature) where
  expiry := hexpiry
  read := by rw [String.toList_ofList, Segments.read?_compact]
  header := Header.read_write hheader
  payload := ⟨(p.payload now).iat, Payload.read_write hpayload, iat_payload p now⟩
  signature := by rw [signedText_compact, ofText_signingInput]

theorem Provider.agrees_of_mint_recorded {now : Instant} {state state' : σ × List SigningCall}
    {c : CachedToken} (h : p.recorded.mint now state = (.minted c, state')) :
    ∃ s call, state'.2 = state.2 ++ [call] ∧ c.Agrees p s call := by
  obtain ⟨header, payload, hheader, hpayload⟩ := p.recorded.exists_write now
  rw [p.recorded.mint_eq hheader hpayload] at h
  rcases hsign : p.signer.sign (octets (signingInput header payload)) state.1
    with ⟨_ | signature, signer⟩
  · simp only [recorded, Signer.recorded, hsign] at h
    cases h
  rcases hexpiry : now.add? p.ttl with _ | expiresAt
  · simp only [recorded, Signer.recorded, hsign, hexpiry] at h
    cases h
  simp only [recorded, Signer.recorded, hsign, hexpiry, Prod.mk.injEq, Answer.minted.injEq] at h
  obtain ⟨rfl, rfl⟩ := h
  exact ⟨_, _, rfl, agrees_of_write p hheader hpayload hexpiry⟩

namespace Crowd

/-- A caller is about to sign a token, at the instant of its call. -/
def Mints (c : Crowd σ) (i : Nat) (k : CachedToken) : Prop :=
  c.moving? i = some (.signing k.issuedAt) ∧
    (p.mint k.issuedAt c.state.signer).1 = .minted k

/-- Some step of a run has made a token, and the call whose step it was asked for its instant. -/
def Made (c : Crowd σ) (nows : List Instant) (schedule : List Nat) (k : CachedToken) : Prop :=
  ∃ pre i post, schedule = pre ++ i :: post ∧ nows[i]? = some k.issuedAt
    ∧ Mints p (run p c pre) i k

variable {p} {start c : Crowd σ} {nows : List Instant} {schedule : List Nat} {k : CachedToken}

theorem Made.append (h : Made p start nows schedule k) (i : Nat) :
    Made p start nows (schedule ++ [i]) k := by
  obtain ⟨pre, j, post, rfl, hnow, hmints⟩ := h
  exact ⟨pre, j, post ++ [i], by simp, hnow, hmints⟩

theorem mints_of_minting? {i : Nat} {call : Call} (hm : c.moving? i = some call)
    (hk : call.minting? p c.state = some k) : Mints p c i k := by
  cases call with
  | signing now =>
    have hk' : (p.mint now c.state.signer).1.minted? = some k := hk
    rw [Mints, (p.mint_minted? hk).1]
    refine ⟨hm, ?_⟩
    cases hanswer : (p.mint now c.state.signer).1 with
    | minted k' =>
      rw [hanswer] at hk'
      cases hk'
      rfl
    | _ => simp [hanswer, Answer.minted?] at hk'
  | _ => simp [Call.minting?] at hk

theorem slot_advance {state : Provider.State σ} {call : Call}
    (hk : (advance p state call).1.slot = some k) :
    state.slot = some k ∨ call = .storing (.minted k) := by
  cases call with
  | storing answer =>
    cases answer with
    | minted k' =>
      cases hk
      exact .inr rfl
    | _ => exact .inl hk
  | looking now | checking now =>
    simp only [advance] at hk
    split at hk <;> exact .inl hk
  | _ => exact .inl hk

/-- What is kept, and what calls have minted, was made in some step. -/
structure AllMade (p : Provider σ) (start : Crowd σ) (nows : List Instant) (schedule : List Nat) :
    Prop where
  asked : Asked nows (run p start schedule).calls
  slot : ∀ k ∈ (run p start schedule).state.slot, Made p start nows schedule k
  calls : ∀ (i : Nat) (call : Call), (run p start schedule).calls[i]? = some call →
    ∀ k ∈ call.minted?, Made p start nows schedule k

theorem AllMade.of_minting? (h : AllMade p start nows schedule) {i : Nat} {call : Call}
    (hm : (run p start schedule).moving? i = some call)
    (hk : call.minting? p (run p start schedule).state = some k) :
    Made p start nows (schedule ++ [i]) k := by
  have hmints := mints_of_minting? hm hk
  obtain ⟨hcall, -⟩ := moving?_eq_some.1 hmints.1
  exact ⟨schedule, i, [], rfl, h.asked i _ _ hcall rfl, hmints⟩

theorem allMade_asking (signer : σ) (nows : List Instant) :
    AllMade p (asking ⟨none, signer⟩ nows) nows [] where
  asked := asked_asking _ nows
  slot k hk := by cases hk
  calls i call hcall k hk := by
    obtain ⟨now, -, rfl⟩ := exists_started_of_asking hcall
    cases hk

theorem run_append_singleton (start : Crowd σ) (schedule : List Nat) (i : Nat) :
    run p start (schedule ++ [i]) = step p (run p start schedule) i :=
  run_append p start schedule [i]

theorem allMade_step (h : AllMade p start nows schedule) (i : Nat) :
    AllMade p start nows (schedule ++ [i]) := by
  have hrun := run_append_singleton (p := p) start schedule i
  rcases hm : (run p start schedule).moving? i with _ | call
  · rw [step_of_none p hm] at hrun
    exact ⟨hrun ▸ h.asked, fun k hk => (h.slot k (hrun ▸ hk)).append i,
      fun j other hj k hk => (h.calls j other (hrun ▸ hj) k hk).append i⟩
  obtain ⟨hcall, -⟩ := moving?_eq_some.1 hm
  refine ⟨?_, fun k hk => ?_, fun j other hj k hk => ?_⟩
  · rw [hrun]
    exact asked_step p _ i h.asked
  · rw [hrun, step_of_some p hm] at hk
    rcases slot_advance hk with hslot | rfl
    · exact (h.slot k hslot).append i
    · exact (h.calls i _ hcall k rfl).append i
  · rw [hrun, calls_step_of_some p hm] at hj
    split_ifs at hj with hij
    · cases hj
      rcases minted?_advance p hk with hminted | hminting
      · exact (h.calls i call hcall k hminted).append i
      · exact h.of_minting? hm hminting
    · exact (h.calls j other hj k hk).append i

theorem allMade_run (signer : σ) (nows : List Instant) (schedule : List Nat) :
    AllMade p (asking ⟨none, signer⟩ nows) nows schedule := by
  induction schedule using List.reverseRecOn with
  | nil => exact allMade_asking signer nows
  | append_singleton schedule i ih => exact allMade_step ih i

/-- The step that makes a token: the signer is called once, and the caller has the token. -/
theorem step_of_mints {c : Crowd (σ × List SigningCall)} {i : Nat} (h : Mints p.recorded c i k) :
    ∃ s call, (step p.recorded c i).state.signer.2 = c.state.signer.2 ++ [call]
      ∧ k.Agrees p s call ∧ (step p.recorded c i).calls[i]? = some (.storing (.minted k)) := by
  obtain ⟨hm, hminted⟩ := h
  obtain ⟨s, call, hsigner, hagrees⟩ := p.agrees_of_mint_recorded (Prod.ext hminted rfl)
  refine ⟨s, call, ?_, hagrees, ?_⟩
  · rw [step_of_some p.recorded hm]
    exact hsigner
  · rw [calls_step_of_some p.recorded hm, if_pos rfl]
    simp only [advance, hminted]

/-- What was made, was made at one call of the signer, in a step of the call whose instant it has.
-/
theorem Made.exists_signing {signer : σ}
    (h : Made p.recorded (asking ⟨none, signer⟩ nows).recorded nows schedule k) :
    ∃ pre i post s call, schedule = pre ++ i :: post ∧ nows[i]? = some k.issuedAt
      ∧ (run p (asking ⟨none, signer⟩ nows) (pre ++ [i])).calls[i]? = some (.storing (.minted k))
      ∧ signings p (asking ⟨none, signer⟩ nows) (pre ++ [i])
        = signings p (asking ⟨none, signer⟩ nows) pre ++ [call]
      ∧ k.Agrees p s call := by
  obtain ⟨pre, i, post, rfl, hnow, hmints⟩ := h
  obtain ⟨s, call, hsignings, hagrees, hcalls⟩ := step_of_mints hmints
  rw [← run_append_singleton] at hsignings hcalls
  refine ⟨pre, i, post, s, call, rfl, hnow, ?_, hsignings, hagrees⟩
  have hrun := congrArg (·.calls)
    (run_recorded p (pre ++ [i]) (asking ⟨none, signer⟩ nows).recorded)
  exact (congrArg (·[i]?) hrun).trans hcalls

theorem exists_mint_of_slot (signer : σ) (nows : List Instant) (schedule : List Nat) :
    ∀ c ∈ (run p (asking ⟨none, signer⟩ nows) schedule).state.slot, ∃ pre i post s call,
      schedule = pre ++ i :: post ∧ nows[i]? = some c.issuedAt
      ∧ (run p (asking ⟨none, signer⟩ nows) (pre ++ [i])).calls[i]? = some (.storing (.minted c))
      ∧ signings p (asking ⟨none, signer⟩ nows) (pre ++ [i])
        = signings p (asking ⟨none, signer⟩ nows) pre ++ [call]
      ∧ c.Agrees p s call := by
  intro c hc
  -- the run is watched with a signer that records its calls, which changes nothing else
  have hrun := congrArg (·.state.slot)
    (run_recorded p schedule (asking ⟨none, signer⟩ nows).recorded)
  exact Made.exists_signing
    ((allMade_run (p := p.recorded) (signer, []) nows schedule).slot c (hrun ▸ hc))

end Crowd

end BearerAuth.Token
