import BearerAuth.Proofs.Token.Agreement

/-!
# What is kept when a token is handed out

A call that hands a token out leaves it kept and valid at its own instant (`handedOut_step`). It is
the last call that has taken effect by then (`Timely`), so if calls take effect in the order of
their instants, the token was issued no later than the call.
-/

namespace BearerAuth.Token

open Time

variable {σ : Type} (p : Provider σ)

theorem Provider.mint_token? {now : Instant} {state : σ} {t : Secret}
    (h : (p.mint now state).1.token? = some t) : ∃ k, (p.mint now state).1 = .minted k
      ∧ k.issuedAt = now ∧ k.expiresAt.nanos = now.nanos + p.ttl.nanos := by
  obtain ⟨header, payload, hheader, hpayload⟩ := p.exists_write now
  rw [p.mint_eq hheader hpayload] at h ⊢
  rcases hsign : p.signer.sign (octets (signingInput header payload)) state
    with ⟨_ | signature, state'⟩
  · simp only [hsign] at h
    cases h
  rcases hexpiry : now.add? p.ttl with _ | expiresAt
  · simp only [hsign, hexpiry] at h
    cases h
  · exact ⟨_, rfl, rfl, Instant.nanos_of_add? hexpiry⟩

theorem Provider.exists_of_lookup {slot : Option CachedToken} {now : Instant} {t : Secret}
    (h : lookup slot now = some t) : ∃ k ∈ slot, k.token = t ∧ now.nanos < k.expiresAt.nanos := by
  obtain ⟨k, hk, rfl⟩ := Option.map_eq_some_iff.1 h
  obtain ⟨hslot, hvalid⟩ := Option.filter_eq_some_iff.1 hk
  exact ⟨k, hslot, rfl, by simpa [CachedToken.isValidAt, Instant.isBefore] using hvalid⟩

/-- The token that a call hands out, once nothing is left to be stored of it. -/
def Call.handedOut? : Call → Option Secret
  | leaving answer | reporting answer | returned answer => answer.token?
  | _ => none

namespace Crowd

/-- What is kept was issued at the instant of a call that has taken effect, and the call with the
exclusive lock is the last that has. -/
structure Timely (nows : List Instant) (c : Crowd σ) (order : List Nat) : Prop where
  issued : ∀ k ∈ c.state.slot, ∃ j ∈ order, nows[j]? = some k.issuedAt
  storing : ∀ (i : Nat) (answer : Answer) (t : Secret), c.calls[i]? = some (.storing answer) →
    answer.token? = some t → ∃ k, answer = .minted k ∧ nows[i]? = some k.issuedAt
      ∧ k.expiresAt.nanos = k.issuedAt.nanos + p.ttl.nanos
  last : ∀ (i : Nat) (call : Call), c.calls[i]? = some call → call.isWriting →
    order.getLast? = some i

theorem timely_asking (signer : σ) (nows : List Instant) :
    Timely p nows (asking ⟨none, signer⟩ nows) [] where
  issued k hk := by cases hk
  storing i answer t hi := by
    obtain ⟨now, -, h⟩ := exists_started_of_asking hi
    cases h
  last i call hcall hw := by
    obtain ⟨now, -, rfl⟩ := exists_started_of_asking hcall
    cases hw

variable {p} {begun : Provider.State σ} {c : Crowd σ} {nows : List Instant} {order : List Nat}

/-- The instants of callers, in the order in which their calls take effect. -/
def effects (nows : List Instant) (order : List Nat) : List Instant :=
  order.filterMap (nows[·]?)

/-- While a call has the exclusive lock, no other call takes effect. -/
theorem settling_eq_nil (hl : Linearized p nows begun c order) {i j : Nat} {other : Call}
    (hj : c.calls[j]? = some other) (hw : other.isWriting) : c.settling i = [] := by
  rcases hm : c.moving? i with _ | call
  · simp only [settling, hm]
  · simp only [settling, hm]
    rw [if_neg]
    intro hs
    simp [idle_of_settles hl.exclusive hm hs j other hj] at hw

theorem mem_order_of_storing (hl : Linearized p nows begun c order) {i : Nat} {answer : Answer}
    (hi : c.calls[i]? = some (.storing answer)) : i ∈ order := by
  rw [hl.mem_iff]
  simp [settledAnswer?, hi, Call.settled?]

theorem storing_advance {state : Provider.State σ} {call : Call} {answer : Answer}
    (h : (advance p state call).2.1 = .storing answer) :
    ∃ now, call = .signing now ∧ answer = (p.mint now state.signer).1 := by
  cases call with
  | signing now =>
    cases h
    exact ⟨now, rfl, rfl⟩
  | looking now | checking now =>
    simp only [advance] at h
    split at h <;> cases h
  | _ => cases h

theorem timely_step (hl : Linearized p nows begun c order) (h : Timely p nows c order) (i : Nat) :
    Timely p nows (step p c i) (order ++ c.settling i) := by
  rcases hm : c.moving? i with _ | call
  · have hnone : c.settling i = [] := by simp only [settling, hm]
    rwa [step_of_none p hm, hnone, List.append_nil]
  obtain ⟨hcall, -⟩ := moving?_eq_some.1 hm
  refine ⟨fun k hk => ?_, fun j answer t hj ht => ?_, fun j other hj hw => ?_⟩
  · -- a token is stored by a call that took effect when it was minted
    rw [step_of_some p hm] at hk
    rcases slot_advance hk with hslot | rfl
    · obtain ⟨j, hj, hnow⟩ := h.issued k hslot
      exact ⟨j, List.mem_append_left _ hj, hnow⟩
    · obtain ⟨k', hk', hnow, -⟩ := h.storing i _ k.token hcall rfl
      cases hk'
      exact ⟨i, List.mem_append_left _ (mem_order_of_storing hl hcall), hnow⟩
  · rw [calls_step_of_some p hm] at hj
    split_ifs at hj with hij
    · subst hij
      obtain ⟨now, rfl, rfl⟩ := storing_advance (Option.some.inj hj)
      obtain ⟨k, hk, hissued, hexpires⟩ := p.mint_token? ht
      refine ⟨k, hk, ?_, by rw [hexpires, hissued]⟩
      rw [hissued]
      exact hl.asked i _ now hcall rfl
    · exact h.storing j answer t hj ht
  · rw [calls_step_of_some p hm] at hj
    split_ifs at hj with hij
    · subst hij
      cases hj
      rcases isWriting_advance p hw with hw | ⟨now, rfl⟩
      · rw [settling_eq_nil hl hcall hw, List.append_nil]
        exact h.last i call hcall hw
      · have hsettling : c.settling i = [i] := by simp only [settling, hm, Call.settles, if_true]
        rw [hsettling, List.getLast?_concat]
    · rw [settling_eq_nil hl hj hw, List.append_nil]
      exact h.last j other hj hw

theorem timely_run : ∀ (schedule : List Nat) {c : Crowd σ} {order : List Nat},
    Linearized p nows begun c order → Timely p nows c order →
      Timely p nows (run p c schedule) (order ++ linearization p c schedule)
  | [], c, order, _, h => by
    rw [linearization, List.append_nil]
    exact h
  | i :: schedule, c, order, hl, h => by
    have := timely_run schedule (linearized_step p hl i) (timely_step hl h i)
    rwa [List.append_assoc] at this

/-- A call comes to hand out a token where it finds it, valid at its instant, or stores it. It is
then the last call that has taken effect. -/
theorem handedOut_step (httl : 0 < p.ttl.nanos) (hl : Linearized p nows begun c order)
    (h : Timely p nows c order) {i : Nat} {now : Instant} {t : Secret}
    (hnow : nows[i]? = some now) (hbefore : c.calls[i]?.bind Call.handedOut? = none)
    (hafter : (step p c i).calls[i]?.bind Call.handedOut? = some t) :
    (∃ k ∈ (step p c i).state.slot, k.token = t ∧ now.nanos < k.expiresAt.nanos)
      ∧ (order ++ c.settling i).getLast? = some i := by
  rcases hm : c.moving? i with _ | call
  · rw [step_of_none p hm, hbefore] at hafter
    cases hafter
  obtain ⟨hcall, -⟩ := moving?_eq_some.1 hm
  rw [calls_step_of_some p hm, if_pos rfl, Option.bind_some] at hafter
  rw [hcall, Option.bind_some] at hbefore
  have hsame : ∀ now', call.now? = some now' → now' = now := fun now' h' =>
    Option.some.inj ((hl.asked i call now' hcall h').symm.trans hnow)
  rw [step_of_some p hm]
  cases call with
  | looking now' =>
    obtain rfl := hsame now' rfl
    rcases hlookup : Provider.lookup c.state.slot now' with _ | token
    · simp [advance, hlookup, Call.handedOut?] at hafter
    · have hsettling : c.settling i = [i] := by
        simp only [settling, hm, Call.settles, hlookup, Option.isSome_some, if_true]
      simp only [advance, hlookup] at hafter ⊢
      cases hafter
      exact ⟨Provider.exists_of_lookup hlookup, by rw [hsettling, List.getLast?_concat]⟩
  | checking now' =>
    obtain rfl := hsame now' rfl
    rcases hlookup : Provider.lookup c.state.slot now' with _ | token
    · simp [advance, hlookup, Call.handedOut?] at hafter
    · rw [settling_eq_nil hl hcall rfl, List.append_nil]
      simp only [advance, hlookup] at hafter ⊢
      cases hafter
      exact ⟨Provider.exists_of_lookup hlookup, h.last i _ hcall rfl⟩
  | storing answer =>
    rw [settling_eq_nil hl hcall rfl, List.append_nil]
    obtain ⟨k, rfl, hissued, hexpires⟩ := h.storing i answer t hcall hafter
    rw [hnow] at hissued
    cases hissued
    cases hafter
    exact ⟨⟨k, rfl, rfl, by omega⟩, h.last i _ hcall rfl⟩
  | leaving answer | reporting answer | returned answer =>
    -- the token was handed out before
    exact absurd (hbefore.symm.trans hafter) (by simp)
  | started now' | waiting now' | signing now' => cases hafter

theorem nanos_le_of_getLast? {i j : Nat} {now issued : Instant} (hlast : order.getLast? = some i)
    (hnow : nows[i]? = some now) (hj : j ∈ order) (hissued : nows[j]? = some issued)
    (hsorted : (effects nows order).Pairwise (·.nanos ≤ ·.nanos)) : issued.nanos ≤ now.nanos := by
  obtain ⟨earlier, rfl⟩ := List.getLast?_eq_some_iff.1 hlast
  have heffects : effects nows (earlier ++ [i]) = effects nows earlier ++ [now] := by
    simp only [effects, List.filterMap_append, List.filterMap_cons, hnow, List.filterMap_nil]
  rw [heffects, List.pairwise_append] at hsorted
  rcases List.mem_append.1 hj with hj | hj
  · have hmem : issued ∈ effects nows earlier := List.mem_filterMap.2 ⟨j, hj, hissued⟩
    exact hsorted.2.2 issued hmem now (List.mem_singleton_self now)
  · rw [List.mem_singleton.1 hj, hnow] at hissued
    cases hissued
    exact le_rfl

end Crowd

namespace Provider

theorem mem_slot_token {now : Instant} {state : State σ} {k : CachedToken}
    (hk : k ∈ (p.token now state).2.slot) : k ∈ state.slot ∨ k.issuedAt = now := by
  rw [token_eq_renew, renew] at hk
  rcases hlookup : lookup state.slot now with _ | t
  · rcases hmint : p.mint now state.signer with ⟨answer, signer⟩
    simp only [hlookup, hmint] at hk
    cases answer with
    | minted k' =>
      cases hk
      exact .inr (p.mint_minted hmint).1
    | _ => exact .inl hk
  · simp only [hlookup] at hk
    exact .inl hk

theorem issuedAt_mem_of_tokens {signer : σ} {nows : List Instant} :
    ∀ k ∈ (p.tokens nows ⟨none, signer⟩).2.slot, k.issuedAt ∈ nows := by
  induction nows using List.reverseRecOn with
  | nil =>
    intro k hk
    cases hk
  | append_singleton nows now ih =>
    intro k hk
    rw [tokens_concat] at hk
    rcases p.mem_slot_token hk with hk | hk
    · exact List.mem_append_left _ (ih k hk)
    · exact List.mem_append_right _ (List.mem_singleton.2 hk)

theorem exists_slot_token (httl : 0 < p.ttl.nanos) {now : Instant} {state : State σ} {t : Secret}
    (h : (p.token now state).1.token? = some t) :
    ∃ k ∈ (p.token now state).2.slot, k.token = t ∧ now.nanos < k.expiresAt.nanos := by
  rw [token_eq_renew, renew] at h ⊢
  rcases hlookup : lookup state.slot now with _ | t'
  · rcases hmint : p.mint now state.signer with ⟨answer, signer⟩
    simp only [hlookup, hmint] at h ⊢
    have ht : (p.mint now state.signer).1.token? = some t := by rwa [hmint]
    obtain ⟨k, hk, -, hexpires⟩ := p.mint_token? ht
    rw [hmint] at hk
    cases hk
    cases h
    exact ⟨k, rfl, rfl, by omega⟩
  · simp only [hlookup] at h ⊢
    cases h
    exact exists_of_lookup hlookup

end Provider

namespace Crowd

/-- In every run, what is kept was made by the call whose instant it has, and says what its provider
and that instant say, with the signature that the signer gave for it. With a positive validity a
call that hands out a token leaves it kept and not expired, whether calls are interleaved or come
one after another; and it was issued no later than the instant of the call, if the instants never
decrease in the order in which the calls take effect. -/
theorem run_keeps_what_it_says (signer : σ) (nows : List Instant) (schedule : List Nat) :
    (∀ c ∈ (run p (asking ⟨none, signer⟩ nows) schedule).state.slot, ∃ pre i post s call,
      schedule = pre ++ i :: post ∧ nows[i]? = some c.issuedAt
      ∧ (run p (asking ⟨none, signer⟩ nows) (pre ++ [i])).calls[i]? = some (.storing (.minted c))
      ∧ signings p (asking ⟨none, signer⟩ nows) (pre ++ [i])
        = signings p (asking ⟨none, signer⟩ nows) pre ++ [call]
      ∧ c.Agrees p s call)
    ∧ (0 < p.ttl.nanos →
      (∀ pre i post now t, schedule = pre ++ i :: post → nows[i]? = some now →
        (run p (asking ⟨none, signer⟩ nows) pre).calls[i]?.bind Call.handedOut? = none →
        (run p (asking ⟨none, signer⟩ nows) (pre ++ [i])).calls[i]?.bind Call.handedOut? = some t →
        ∃ c ∈ (run p (asking ⟨none, signer⟩ nows) (pre ++ [i])).state.slot, c.token = t
          ∧ now.nanos < c.expiresAt.nanos
          ∧ ((effects nows (linearization p (asking ⟨none, signer⟩ nows) schedule)).Pairwise
            (·.nanos ≤ ·.nanos) → c.issuedAt.nanos ≤ now.nanos))
      ∧ ∀ earlier now t,
        (p.token now (p.tokens earlier ⟨none, signer⟩).2).1.token? = some t →
        ∃ c ∈ (p.token now (p.tokens earlier ⟨none, signer⟩).2).2.slot, c.token = t
          ∧ now.nanos < c.expiresAt.nanos
          ∧ ((earlier ++ [now]).Pairwise (·.nanos ≤ ·.nanos) →
            c.issuedAt.nanos ≤ now.nanos)) := by
  refine ⟨exists_mint_of_slot signer nows schedule, fun httl => ⟨?_, ?_⟩⟩
  · rintro pre i post now t rfl hnow hbefore hafter
    have hl := linearized_run p pre (linearized_asking p ⟨none, signer⟩ nows)
    have h := timely_run pre (linearized_asking p ⟨none, signer⟩ nows)
      (timely_asking p signer nows)
    rw [run_append_singleton] at hafter ⊢
    obtain ⟨⟨k, hk, ht, hvalid⟩, hlast⟩ := handedOut_step httl hl h hnow hbefore hafter
    refine ⟨k, hk, ht, hvalid, fun hsorted => ?_⟩
    obtain ⟨j, hj, hissued⟩ := (timely_step hl h i).issued k hk
    refine nanos_le_of_getLast? hlast hnow hj hissued ?_
    rw [linearization_append, linearization, ← List.append_assoc, effects,
      List.filterMap_append, List.pairwise_append] at hsorted
    exact hsorted.1
  · intro earlier now t ht
    obtain ⟨k, hk, htoken, hvalid⟩ := p.exists_slot_token httl ht
    refine ⟨k, hk, htoken, hvalid, fun hsorted => ?_⟩
    rcases p.mem_slot_token hk with hk | hk
    · have hmem := p.issuedAt_mem_of_tokens k hk
      exact (List.pairwise_append.1 hsorted).2.2 _ hmem now (List.mem_singleton_self now)
    · rw [hk]

end Crowd

end BearerAuth.Token
