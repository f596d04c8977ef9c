import BearerAuth.Proofs.Token.Exclusion
import BearerAuth.Proofs.Token.Serial
import Mathlib.Algebra.Order.Ring.Int
import Mathlib.Data.List.Chain

/-!
# One token in the span of its validity

A token is minted only by a call that has the exclusive lock and finds that the kept token, which
is the one minted last, has expired at its own instant (`Fits`). So each token is issued at least
one validity after the one before (`mintSpaced_run`), whatever the order of the callers' instants,
and the instants of the calls bound how many tokens there can be (`length_le_of_spaced`).
-/

namespace BearerAuth.Token

open Time

variable {σ : Type} (p : Provider σ)

def Answer.minted? : Answer → Option CachedToken
  | minted t => some t
  | _ => none

theorem Provider.kept_eq (slot : Option CachedToken) (answer : Answer) :
    Provider.kept slot answer = answer.minted?.or slot := by
  cases answer <;> rfl

theorem Provider.mint_minted? {now : Instant} {state : σ} {t : CachedToken}
    (h : (p.mint now state).1.minted? = some t) :
    t.issuedAt = now ∧ t.expiresAt.nanos = now.nanos + p.ttl.nanos := by
  rcases hmint : p.mint now state with ⟨answer, state'⟩
  rw [hmint] at h
  cases answer with
  | minted c =>
    cases h
    obtain ⟨hissued, hadd⟩ := p.mint_minted hmint
    exact ⟨hissued, Instant.nanos_of_add? hadd⟩
  | _ => simp [Answer.minted?] at h

namespace Call

/-- The token that the next step of a call mints. -/
def minting? (state : Provider.State σ) : Call → Option CachedToken
  | signing now => (p.mint now state.signer).1.minted?
  | _ => none

/-- The token that a call has minted. -/
def minted? : Call → Option CachedToken
  | storing answer | leaving answer | reporting answer | returned answer => answer.minted?
  | _ => none

theorem minting?_of_not_writing {state : Provider.State σ} {call : Call}
    (h : call.isWriting = false) : call.minting? p state = none := by
  cases call with
  | signing now => simp [isWriting] at h
  | _ => rfl

/-- What is kept, as the call with the exclusive lock knows it: the token minted last, which has
expired before the call mints another. -/
def Fits (minted : List CachedToken) (slot : Option CachedToken) : Call → Prop
  | signing now => slot = minted.getLast? ∧ ∀ k ∈ slot, k.expiresAt.nanos ≤ now.nanos
  | storing answer => Provider.kept slot answer = minted.getLast?
    ∧ ∀ k ∈ slot, ∀ t ∈ answer.minted?, k.expiresAt.nanos ≤ t.expiresAt.nanos
  | _ => slot = minted.getLast?

theorem fits_of_not_writing {minted : List CachedToken} {slot : Option CachedToken} {call : Call}
    (h : call.isWriting = false) : call.Fits minted slot ↔ slot = minted.getLast? := by
  cases call with
  | signing _ | storing _ => simp [isWriting] at h
  | _ => exact Iff.rfl

end Call

namespace Crowd

theorem minted?_advance {state : Provider.State σ} {call : Call} {t : CachedToken}
    (h : (advance p state call).2.1.minted? = some t) :
    call.minted? = some t ∨ call.minting? p state = some t := by
  cases call with
  | looking now | checking now =>
    simp only [advance] at h
    split at h <;> simp [Call.minted?, Answer.minted?] at h
  | signing now => exact .inr h
  | _ => exact .inl h

/-- Where the kept token has expired, a call that mints goes on with a token that expires later. -/
theorem fits_advance (httl : 0 < p.ttl.nanos) {minted : List CachedToken}
    {state : Provider.State σ} {call : Call} (h : call.Fits minted state.slot) :
    (advance p state call).2.1.Fits (minted ++ (call.minting? p state).toList)
      (advance p state call).1.slot := by
  cases call with
  | looking now =>
    simp only [advance, Call.minting?, Option.toList_none, List.append_nil]
    split <;> exact h
  | checking now =>
    simp only [advance, Call.minting?, Option.toList_none, List.append_nil]
    split
    · exact h
    · rename_i hlookup
      exact ⟨h, Provider.lookup_eq_none.1 hlookup⟩
  | signing now =>
    obtain ⟨hslot, hexpired⟩ := h
    simp only [advance, Call.minting?, Call.Fits]
    refine ⟨?_, fun k hk t ht => ?_⟩
    · rw [Provider.kept_eq, hslot, List.getLast?_append]
      cases (p.mint now state.signer).1.minted? <;> rfl
    · have hk := hexpired k hk
      have ht := (p.mint_minted? ht).2
      omega
  | storing answer =>
    simp only [advance, Call.minting?, Option.toList_none, List.append_nil]
    exact h.1
  | _ =>
    simp only [advance, Call.minting?, Option.toList_none, List.append_nil]
    exact h

def minting (c : Crowd σ) (i : Nat) : List CachedToken :=
  ((c.moving? i).bind (·.minting? p c.state)).toList

/-- The tokens minted in a run, in the order in which the signer signed them. -/
def mints (c : Crowd σ) : List Nat → List CachedToken
  | [] => []
  | i :: schedule => minting p c i ++ mints (step p c i) schedule

/-- One token lies a span behind the other. -/
def Behind (ttl : Span) (t u : CachedToken) : Prop :=
  t.issuedAt.nanos + ttl.nanos ≤ u.issuedAt.nanos

/-- The tokens minted so far lie a validity apart, and the last one is kept, or will be as soon as
its call has stored it. -/
structure MintSpaced (nows : List Instant) (c : Crowd σ) (minted : List CachedToken) : Prop where
  exclusive : Exclusive c.calls
  asked : Asked nows c.calls
  issued : ∀ t ∈ minted, t.issuedAt ∈ nows
    ∧ t.expiresAt.nanos = t.issuedAt.nanos + p.ttl.nanos
  spaced : minted.IsChain (Behind p.ttl)
  answered : ∀ (i : Nat) (call : Call), c.calls[i]? = some call → ∀ t ∈ call.minted?, t ∈ minted
  writing : ∀ (i : Nat) (call : Call), c.calls[i]? = some call → call.isWriting →
    call.Fits minted c.state.slot
  idle : Idle c.calls → c.state.slot = minted.getLast?

theorem mintSpaced_asking (signer : σ) (nows : List Instant) :
    MintSpaced p nows (asking ⟨none, signer⟩ nows) [] where
  exclusive := exclusive_asking _ nows
  asked := asked_asking _ nows
  issued t ht := by simp at ht
  spaced := .nil
  answered i call hcall t ht := by
    obtain ⟨now, -, rfl⟩ := exists_started_of_asking hcall
    simp [Call.minted?] at ht
  writing i call hcall hw := by
    obtain ⟨now, -, rfl⟩ := exists_started_of_asking hcall
    simp [Call.isWriting] at hw
  idle _ := rfl

variable {p} {nows : List Instant} {c : Crowd σ} {minted : List CachedToken}

/-- The call that a step lets in, or that is in already, finds the token minted last. -/
theorem MintSpaced.fits (h : MintSpaced p nows c minted) {i : Nat} {call : Call}
    (hm : c.moving? i = some call) (hw : call.isWriting ∨ (advance p c.state call).2.1.isWriting) :
    call.Fits minted c.state.slot := by
  by_cases hcw : call.isWriting
  · exact h.writing i call (moving?_eq_some.1 hm).1 hcw
  · obtain ⟨now, rfl⟩ := (isWriting_advance p (hw.resolve_left hcw)).resolve_left hcw
    exact h.idle (idle_of_waiting hm)

/-- What a step mints is issued at the instant of its call, when the token minted last has
expired. -/
theorem MintSpaced.of_minting (h : MintSpaced p nows c minted) {i : Nat} {call : Call}
    (hm : c.moving? i = some call) {t : CachedToken} (ht : call.minting? p c.state = some t) :
    t.issuedAt ∈ nows ∧ t.expiresAt.nanos = t.issuedAt.nanos + p.ttl.nanos
      ∧ ∀ k ∈ minted.getLast?, Behind p.ttl k t := by
  obtain ⟨hcall, -⟩ := moving?_eq_some.1 hm
  cases call with
  | signing now =>
    obtain ⟨hissued, hexpires⟩ := p.mint_minted? ht
    obtain ⟨hslot, hexpired⟩ := h.fits hm (.inl rfl)
    refine ⟨?_, by rw [hissued, hexpires], fun k hk => ?_⟩
    · rw [hissued]
      exact List.mem_of_getElem? (h.asked i _ now hcall rfl)
    · have hk' := hexpired k (hslot ▸ hk)
      rw [(h.issued k (List.mem_of_getLast? hk)).2] at hk'
      rwa [Behind, hissued]
  | _ => simp [Call.minting?] at ht

theorem mintSpaced_step (httl : 0 < p.ttl.nanos) (h : MintSpaced p nows c minted) (i : Nat) :
    MintSpaced p nows (step p c i) (minted ++ minting p c i) := by
  rcases hm : c.moving? i with _ | call
  · simpa only [minting, hm, Option.bind_none, Option.toList_none, List.append_nil,
      step_of_none p hm] using h
  obtain ⟨hcall, -⟩ := moving?_eq_some.1 hm
  simp only [minting, hm, Option.bind_some]
  refine ⟨exclusive_step p c i h.exclusive, asked_step p c i h.asked, fun t ht => ?_, ?_,
    fun j other hj t ht => ?_, fun j other hj hw => ?_, fun hnot => ?_⟩
  · rcases List.mem_append.1 ht with ht | ht
    · exact h.issued t ht
    · obtain ⟨hissued, hexpires, -⟩ := h.of_minting hm (Option.mem_toList.1 ht)
      exact ⟨hissued, hexpires⟩
  · refine h.spaced.append ?_ fun k hk t ht => ?_
    · cases call.minting? p c.state <;> simp
    · refine (h.of_minting hm ?_).2.2 k hk
      rcases hmint : call.minting? p c.state with _ | u <;> simp_all
  · rw [calls_step_of_some p hm] at hj
    split_ifs at hj with hij
    · cases hj
      rcases minted?_advance p ht with ht | ht
      · exact List.mem_append_left _ (h.answered i call hcall t ht)
      · exact List.mem_append_right _ (Option.mem_toList.2 ht)
    · exact List.mem_append_left _ (h.answered j other hj t ht)
  · rw [calls_step_of_some p hm] at hj
    rw [step_of_some p hm]
    split_ifs at hj with hij
    · cases hj
      exact fits_advance p httl (h.fits hm (.inr hw))
    · have hcw := h.exclusive.isWriting_eq_false hj (.inr hw) hcall (Ne.symm hij)
      rw [advance_state_of_not_writing p hcw, Call.minting?_of_not_writing p hcw,
        Option.toList_none, List.append_nil]
      exact h.writing j other hj hw
  · rw [step_of_some p hm]
    by_cases hcw : call.isWriting
    · exact (Call.fits_of_not_writing (isWriting_advance_of_idle p hm hnot)).1
        (fits_advance p httl (h.fits hm (.inl hcw)))
    · simp only [Bool.not_eq_true] at hcw
      rw [advance_state_of_not_writing p hcw, Call.minting?_of_not_writing p hcw,
        Option.toList_none, List.append_nil]
      exact h.idle (idle_of_idle_step p hm hcw hnot)

theorem mintSpaced_run (httl : 0 < p.ttl.nanos) : ∀ (schedule : List Nat) {c : Crowd σ}
    {minted : List CachedToken}, MintSpaced p nows c minted →
      MintSpaced p nows (run p c schedule) (minted ++ Crowd.mints p c schedule)
  | [], c, minted, h => by
    rw [Crowd.mints, List.append_nil]
    exact h
  | i :: schedule, c, minted, h => by
    have := mintSpaced_run httl schedule (mintSpaced_step httl h i)
    rwa [List.append_assoc] at this

/-- What is kept is only ever replaced by what expires no earlier. -/
theorem MintSpaced.expiry_le_step (h : MintSpaced p nows c minted) (i : Nat) :
    ∀ k ∈ c.state.slot, ∃ k' ∈ (step p c i).state.slot, k.expiresAt.nanos ≤ k'.expiresAt.nanos := by
  intro k hk
  rcases hm : c.moving? i with _ | call
  · rw [step_of_none p hm]
    exact ⟨k, hk, le_rfl⟩
  rw [step_of_some p hm]
  by_cases hcw : call.isWriting
  swap
  · rw [advance_state_of_not_writing p (by simpa using hcw)]
    exact ⟨k, hk, le_rfl⟩
  have hfits := h.fits hm (.inl hcw)
  cases call with
  | checking now =>
    simp only [advance]
    split <;> exact ⟨k, hk, le_rfl⟩
  | storing answer =>
    simp only [advance, Provider.kept_eq]
    rcases ht : answer.minted? with _ | t
    · exact ⟨k, hk, le_rfl⟩
    · exact ⟨t, rfl, hfits.2 k hk t ht⟩
  | signing now | leaving answer => exact ⟨k, hk, le_rfl⟩
  | _ => simp [Call.isWriting] at hcw

theorem MintSpaced.expiry_le_run (httl : 0 < p.ttl.nanos) :
    ∀ (schedule : List Nat) {c : Crowd σ} {minted : List CachedToken}, MintSpaced p nows c minted →
      ∀ k ∈ c.state.slot, ∃ k' ∈ (run p c schedule).state.slot,
        k.expiresAt.nanos ≤ k'.expiresAt.nanos
  | [], _, _, _, k, hk => ⟨k, hk, le_rfl⟩
  | i :: schedule, c, minted, h, k, hk => by
    obtain ⟨l, hl, hkl⟩ := h.expiry_le_step i k hk
    obtain ⟨m, hm, hlm⟩ := expiry_le_run httl schedule (mintSpaced_step httl h i) l hl
    exact ⟨m, hm, hkl.trans hlm⟩

/-- Tokens that lie spans apart take up at least the spans between them. -/
theorem mul_le_of_spaced {ttl : Span} {latest : Int} : ∀ {t : CachedToken} {ts : List CachedToken},
    (t :: ts).IsChain (Behind ttl) → (∀ u ∈ t :: ts, u.issuedAt.nanos ≤ latest) →
      t.issuedAt.nanos + ts.length * ttl.nanos ≤ latest
  | t, [], _, hle => by simpa using hle t List.mem_cons_self
  | t, u :: ts, hspaced, hle => by
    obtain ⟨hbehind, hspaced⟩ := List.isChain_cons_cons.1 hspaced
    have hlater := mul_le_of_spaced hspaced fun v hv => hle v (List.mem_cons_of_mem t hv)
    unfold Behind at hbehind
    push_cast [List.length_cons]
    rw [add_mul, one_mul]
    omega

theorem length_le_of_spaced {ttl : Span} (httl : 0 < ttl.nanos) {earliest latest : Int}
    {ts : List CachedToken} (hspaced : ts.IsChain (Behind ttl))
    (hle : ∀ t ∈ ts, earliest ≤ t.issuedAt.nanos ∧ t.issuedAt.nanos ≤ latest)
    (hrange : earliest ≤ latest) : (ts.length : Int) ≤ 1 + (latest - earliest) / ttl.nanos := by
  cases ts with
  | nil =>
    have := Int.ediv_nonneg (by omega : 0 ≤ latest - earliest) httl.le
    simp only [List.length_nil]
    omega
  | cons t ts =>
    have hspan := mul_le_of_spaced hspaced fun u hu => (hle u hu).2
    have hfirst := (hle t List.mem_cons_self).1
    have : (ts.length : Int) ≤ (latest - earliest) / ttl.nanos :=
      (Int.le_ediv_iff_mul_le httl).2 (by omega)
    push_cast [List.length_cons]
    omega

variable (p)

/-- However callers are interleaved, whatever their instants and whatever the signer answers, a
provider that begins without a token issues each token at least its validity after the one before.
So there are no more than fit between the first and the last instant of the calls, and what is kept
never comes to expire earlier. -/
theorem run_mints_spaced (httl : 0 < p.ttl.nanos) (signer : σ) (nows : List Instant)
    (schedule : List Nat) :
    (∀ (i : Nat) (t : CachedToken),
      (run p (asking ⟨none, signer⟩ nows) schedule).calls[i]? = some (.returned (.minted t)) →
        t ∈ mints p (asking ⟨none, signer⟩ nows) schedule)
    ∧ (mints p (asking ⟨none, signer⟩ nows) schedule).IsChain
        (fun t u => t.issuedAt.nanos + p.ttl.nanos ≤ u.issuedAt.nanos)
    ∧ (∀ earliest ∈ nows, ∀ latest ∈ nows,
      (∀ now ∈ nows, earliest.nanos ≤ now.nanos ∧ now.nanos ≤ latest.nanos) →
      ((mints p (asking ⟨none, signer⟩ nows) schedule).length : Int)
        ≤ 1 + (latest.nanos - earliest.nanos) / p.ttl.nanos)
    ∧ ∀ pre post, schedule = pre ++ post →
      ∀ k ∈ (run p (asking ⟨none, signer⟩ nows) pre).state.slot,
        ∃ k' ∈ (run p (asking ⟨none, signer⟩ nows) schedule).state.slot,
          k.expiresAt.nanos ≤ k'.expiresAt.nanos := by
  have hbefore := mintSpaced_asking p signer nows
  have h := mintSpaced_run httl schedule hbefore
  rw [List.nil_append] at h
  refine ⟨fun i t hi => h.answered i _ hi t rfl, h.spaced,
    fun earliest he latest hl hbounds => ?_, ?_⟩
  · exact length_le_of_spaced httl h.spaced (fun t ht => hbounds _ (h.issued t ht).1)
      (hbounds latest hl).1
  · rintro pre post rfl k hk
    rw [run_append]
    exact MintSpaced.expiry_le_run httl post (mintSpaced_run httl pre hbefore) k hk

def halfPast : Instant := ⟨1800000000000, 0, by decide, by decide⟩

/-- Of two callers half an hour apart, the earlier mints at once and the later when that token has
expired. -/
theorem run_mints_spaced_two : 0 < Provider.numbering.ttl.nanos
    ∧ (mints Provider.numbering (asking ⟨none, {}⟩ [epoch, halfPast]) (roundRobin 2)).length = 2
    ∧ (mints Provider.numbering (asking ⟨none, {}⟩ [epoch, halfPast]) (roundRobin 2)).IsChain
      (fun t u => t.issuedAt.nanos + Provider.numbering.ttl.nanos ≤ u.issuedAt.nanos) :=
  ⟨by decide, by decide, (run_mints_spaced Provider.numbering (by decide) {} _ _).2.1⟩

end Crowd

end BearerAuth.Token
