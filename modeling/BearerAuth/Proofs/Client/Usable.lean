import BearerAuth.Proofs.Client.Counting
import BearerAuth.Proofs.Client.Dispatch
import BearerAuth.Proofs.Token.Kept

/-!
# Tokens as credentials

A call comes to an answer in one of three ways: it has a token that was made in some step of the
run, the signer failed, or the expiry is out of range (`isFrom_made_run`). A token that was made is
a compact token, so all its characters are legal in a header (`isLegal_compact`), and what a request
carries after the scheme is read back as what was signed.
-/

namespace BearerAuth

open Http Time Token

variable {σ : Type}

/-- The text that a credential carries after its scheme. -/
def Http.HeaderValue.bearer? (v : HeaderValue) : Option String :=
  (v.octets.dropPrefix? (Bytes.ofText (bearerScheme ++ " "))).bind Bytes.toText?

theorem bearer?_of_credential? {token : Secret} {v : HeaderValue} (h : credential? token = some v) :
    v.bearer? = some token.exposed := by
  rw [HeaderValue.bearer?, (credential?_eq_some_iff.1 h).1, Bytes.ofText_append,
    List.dropPrefix?_append_of_beq _ (BEq.refl _), Option.bind_some, Bytes.toText?_ofText]

/-- What a caller has of an answer; a call that ends abnormally leaves nothing. -/
def Token.Answer.outcome? : Answer → Option (Except Error Secret)
  | .cached token => some (.ok token)
  | .minted c => some (.ok c.token)
  | .failed e => some (.error e)
  | .outOfRange => none

namespace Token

/-! ### What is handed out was made -/

/-- An answer with a token that was made, or without one because the signer failed or the expiry is
out of range. -/
def Answer.IsFrom (made : CachedToken → Prop) (answer : Answer) : Prop :=
  (∃ k, made k ∧ answer.token? = some k.token) ∨ (∃ e, answer = .failed (.signing e))
    ∨ answer = .outOfRange

theorem Answer.IsFrom.mono {made made' : CachedToken → Prop} (h : ∀ k, made k → made' k)
    {answer : Answer} (ha : answer.IsFrom made) : answer.IsFrom made' :=
  ha.imp (fun ⟨k, hk, htoken⟩ => ⟨k, h k hk, htoken⟩) id

theorem Provider.mint_isFrom (p : Provider σ) (now : Instant) (state : σ) :
    (p.mint now state).1.IsFrom fun k => (p.mint now state).1.minted? = some k := by
  obtain ⟨header, payload, hheader, hpayload⟩ := p.exists_write now
  rw [p.mint_eq hheader hpayload]
  rcases p.signer.sign (octets (signingInput header payload)) state with ⟨e | signature, state'⟩
  · exact .inr (.inl ⟨e, rfl⟩)
  · rcases now.add? p.ttl with _ | expiresAt
    · exact .inr (.inr rfl)
    · exact .inl ⟨_, rfl, rfl⟩

theorem Answer.outcome?_of_token? {answer : Answer} {token : Secret}
    {outcome : Except Error Secret} (htoken : answer.token? = some token)
    (h : answer.outcome? = some outcome) : outcome = .ok token := by
  cases answer with
  | cached t | minted k =>
    cases htoken
    exact (Option.some.inj h).symm
  | failed e | outOfRange => cases htoken

/-- The answer that a call has come to. -/
def Call.answer? : Call → Option Answer
  | storing answer | leaving answer | reporting answer | returned answer => some answer
  | _ => none

namespace Crowd

variable {p : Provider σ} {nows : List Instant} {schedule : List Nat}

/-- A call that comes to an answer finds its token kept, or makes it, or has none. -/
theorem answer?_advance {state : Provider.State σ} {call : Call} {answer : Answer}
    (h : (advance p state call).2.1.answer? = some answer) :
    call.answer? = some answer
      ∨ answer.IsFrom fun k => k ∈ state.slot ∨ call.minting? p state = some k := by
  cases call with
  | started now | waiting now => cases h
  | looking now | checking now =>
    simp only [advance] at h
    split at h
    · rename_i hlookup
      cases h
      obtain ⟨k, hk, rfl, -⟩ := Provider.exists_of_lookup hlookup
      exact .inr (.inl ⟨k, .inl hk, rfl⟩)
    · cases h
  | signing now =>
    cases h
    exact .inr ((p.mint_isFrom now state.signer).mono fun k hk => .inr hk)
  | storing answer | leaving answer | reporting answer | returned answer => exact .inl h

theorem isFrom_made_run (signer : σ) (nows : List Instant) (schedule : List Nat) :
    ∀ (i : Nat) (call : Call) (answer : Answer),
      (run p (asking ⟨none, signer⟩ nows) schedule).calls[i]? = some call →
      call.answer? = some answer →
      answer.IsFrom (Made p (asking ⟨none, signer⟩ nows) nows schedule) := by
  induction schedule using List.reverseRecOn with
  | nil =>
    intro i call answer hcall hanswer
    obtain ⟨now, -, rfl⟩ := exists_started_of_asking hcall
    cases hanswer
  | append_singleton schedule i ih =>
    have hmade := allMade_run (p := p) signer nows schedule
    have hmono : ∀ k, Made p (asking ⟨none, signer⟩ nows) nows schedule k →
        Made p (asking ⟨none, signer⟩ nows) nows (schedule ++ [i]) k := fun k hk => hk.append i
    intro j call answer hcall hanswer
    rw [run_append_singleton] at hcall
    rcases hm : (run p (asking ⟨none, signer⟩ nows) schedule).moving? i with _ | moving
    · rw [step_of_none p hm] at hcall
      exact (ih j call answer hcall hanswer).mono hmono
    rw [calls_step_of_some p hm] at hcall
    split_ifs at hcall with hij
    · cases hcall
      rcases answer?_advance hanswer with hbefore | hfrom
      · exact (ih i moving answer (moving?_eq_some.1 hm).1 hbefore).mono hmono
      · refine hfrom.mono fun k hk => ?_
        rcases hk with hk | hk
        · exact hmono k (hmade.slot k hk)
        · exact hmade.of_minting? hm hk
    · exact (ih j call answer hcall hanswer).mono hmono

theorem isFrom_made_of_mem_answers (signer : σ) (nows : List Instant) (schedule : List Nat)
    {answer : Answer} (h : answer ∈ (run p (asking ⟨none, signer⟩ nows) schedule).answers) :
    answer.IsFrom (Made p.recorded (asking ⟨none, signer⟩ nows).recorded nows schedule) := by
  obtain ⟨call, hcall, hanswer⟩ := List.mem_filterMap.1 h
  obtain ⟨i, hi⟩ := List.mem_iff_getElem?.1 hcall
  -- the run is watched with a signer that records its calls, which changes nothing else
  have hrun := congrArg (·.calls)
    (run_recorded p schedule (asking ⟨none, signer⟩ nows).recorded)
  refine isFrom_made_run (p := p.recorded) (signer, []) nows schedule i call answer
    ((congrArg (·[i]?) hrun).symm.trans hi) ?_
  cases call with
  | returned _ => exact hanswer
  | _ => cases hanswer

theorem exists_made_of_token? {signer : σ} {answer : Answer} {token : Secret}
    (h : answer ∈ (run p (asking ⟨none, signer⟩ nows) schedule).answers)
    (htoken : answer.token? = some token) :
    ∃ k, Made p.recorded (asking ⟨none, signer⟩ nows).recorded nows schedule k
      ∧ k.token = token := by
  rcases isFrom_made_of_mem_answers signer nows schedule h with
    ⟨k, hk, hanswer⟩ | ⟨e, rfl⟩ | rfl
  · exact ⟨k, hk, Option.some.inj (hanswer.symm.trans htoken)⟩
  · cases htoken
  · cases htoken

end Crowd

/-! ### Compact tokens in headers -/

theorem isLegal_compact {token : Secret} {s : Segments} (h : token.exposed.toList = s.compact) :
    token.IsLegal := by
  have htoNat : ∀ c ∈ s.compact, 32 < c.toNat ∧ c.toNat < 127 := by
    intro c hc
    simp only [Segments.compact, List.mem_append, List.mem_cons] at hc
    rcases hc with hc | rfl | hc
    · exact toNat_of_mem_signingInput hc
    · decide
    · exact toNat_of_mem_segment hc
  have hoctets : Bytes.ofText token.exposed = octets s.compact := by
    rw [← Bytes.ofText_ofList_of_ascii fun c hc => (htoNat c hc).2.trans (by decide), ← h,
      String.ofList_toList]
  rw [Secret.IsLegal, hoctets]
  intro b hb
  obtain ⟨c, hc, rfl⟩ := List.mem_map.1 hb
  have hlt := htoNat c hc
  have htoNat_octet : (UInt8.ofNat c.toNat).toNat = c.toNat := by
    rw [UInt8.toNat_ofNat', Nat.mod_eq_of_lt (by omega)]
  refine .inr ⟨?_, fun heq => ?_⟩
  · rw [UInt8.le_iff_toNat_le, htoNat_octet]
    exact hlt.1.le
  · rw [heq] at htoNat_octet
    exact absurd htoNat_octet (Nat.ne_of_gt hlt.2)

end Token

namespace Client

variable (p : Provider σ)

/-- Whatever key identifier, issuer and validity a provider has and whatever its signer answers, a
token that a call of it hands out, in any run, has only letters, digits, hyphens and underscores in
it, and two points. It was made in a step of the run with one call of the signer. Every request with
it is dispatched, with a credential that after its scheme reads as the header and payload that were
signed, and with their signature. And no request with what a call comes to is refused for its token:
the error for that can only come from the transport. -/
theorem answers_usable (signer : σ) (nows : List Instant) (schedule : List Nat) :
    (∀ answer ∈ (Crowd.run p (Crowd.asking ⟨none, signer⟩ nows) schedule).answers,
      ∀ token, answer.token? = some token →
        (∀ c ∈ token.exposed.toList, c.isAlphanum ∨ c = '-' ∨ c = '_' ∨ c = '.')
        ∧ token.exposed.toList.count '.' = 2
        ∧ ∃ pre i post, ∃ k : CachedToken, ∃ s call,
          schedule = pre ++ i :: post ∧ nows[i]? = some k.issuedAt
          ∧ Crowd.signings p (Crowd.asking ⟨none, signer⟩ nows) (pre ++ [i])
            = Crowd.signings p (Crowd.asking ⟨none, signer⟩ nows) pre ++ [call]
          ∧ k.token = token ∧ k.Agrees p s call
          ∧ ∀ {τ : Type} (c : Client τ) (elapsed : Duration) (r : Request) (state : τ), ∃ q v text,
            c.dispatches (.ok token) elapsed r state = [q]
            ∧ q.headers.values .authorization = [v] ∧ v.bearer? = some text
            ∧ Segments.read? text.toList = some s)
    ∧ ∀ answer ∈ (Crowd.run p (Crowd.asking ⟨none, signer⟩ nows) schedule).answers,
      ∀ outcome, answer.outcome? = some outcome →
        ∀ {τ : Type} (c : Client τ) (elapsed : Duration) (r : Request) (state : τ),
          (c.execute outcome elapsed r state).result = .error (.request .invalidHeader) →
          ∃ q, c.dispatches outcome elapsed r state = [q]
            ∧ (c.transport.execute q state).1.reply = .error .invalidHeader := by
  refine ⟨fun answer hmem token htoken => ?_, fun answer hmem outcome houtcome τ c elapsed r state
    hresult => ?_⟩
  · obtain ⟨k, hmade, rfl⟩ := Crowd.exists_made_of_token? hmem htoken
    obtain ⟨pre, i, post, s, call, hschedule, hnow, -, hsignings, hagrees⟩ := hmade.exists_signing
    have hcompact := Segments.compact_of_read? hagrees.read
    obtain ⟨v, hv, -⟩ := exists_credential? (isLegal_compact hcompact)
    refine ⟨fun c hc => Segments.mem_compact (hcompact ▸ hc),
      hcompact ▸ Segments.count_compact s, pre, i, post, k, s, call, hschedule, hnow, hsignings,
      rfl, hagrees, fun c elapsed r state => ?_⟩
    exact ⟨_, v, k.token.exposed, c.dispatches_of_legal elapsed r state hv,
      r.headers.values_set_self, bearer?_of_credential? hv, hagrees.read⟩
  · rcases Crowd.isFrom_made_of_mem_answers signer nows schedule hmem with
      ⟨k, hmade, hanswer⟩ | ⟨e, rfl⟩ | rfl
    · obtain rfl := Answer.outcome?_of_token? hanswer houtcome
      obtain ⟨_, _, _, s, _, _, _, _, _, hagrees⟩ := hmade.exists_signing
      have hcompact := Segments.compact_of_read? hagrees.read
      obtain ⟨v, hv, -⟩ := exists_credential? (isLegal_compact hcompact)
      refine ⟨_, c.dispatches_of_legal elapsed r state hv, ?_⟩
      rw [c.execute_of_legal elapsed r state hv] at hresult
      cases hreply : (c.transport.execute (c.prepared v elapsed r) state).1.reply with
      | ok response => simp [hreply, Except.mapError] at hresult
      | error failure => simpa [hreply, Except.mapError] using hresult
    · cases houtcome
      cases hresult
    · cases houtcome

/-- Two callers at one moment. The first makes the token, and both can use it. -/
theorem answers_usable_two :
    (Crowd.run .numbering (Crowd.asking ⟨none, {}⟩ [epoch, epoch])
        (Crowd.roundRobin 2)).answers.length = 2
      ∧ ∀ answer ∈ (Crowd.run .numbering (Crowd.asking ⟨none, {}⟩ [epoch, epoch])
        (Crowd.roundRobin 2)).answers, ∃ token q v text s,
          answer.token? = some token ∧ token.exposed.toList.count '.' = 2
          ∧ offlineClient.dispatches (.ok token) .zero exampleRequest () = [q]
          ∧ q.headers.values .authorization = [v] ∧ v.bearer? = some text
          ∧ Segments.read? text.toList = some s := by
  refine ⟨by decide, fun answer hmem => ?_⟩
  have hsome : answer.token?.isSome := by
    revert answer
    decide
  obtain ⟨token, htoken⟩ := Option.isSome_iff_exists.1 hsome
  obtain ⟨-, hcount, -, -, -, -, s, -, -, -, -, -, -, hdispatches⟩ :=
    (answers_usable .numbering {} _ _).1 answer hmem token htoken
  obtain ⟨q, v, text, hq, hv, htext, hread⟩ := hdispatches offlineClient .zero exampleRequest ()
  exact ⟨token, q, v, text, s, htoken, hcount, hq, hv, htext, hread⟩

end Client

end BearerAuth
