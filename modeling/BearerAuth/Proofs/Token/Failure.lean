import BearerAuth.Proofs.Token.Agreement

/-!
# Calls that fail

A call hands out no token if the signer fails, or if it signs and the expiry is beyond the range of
dates (`signings_of_failed`). What is kept is then left as it was (`token_of_failed`,
`slot_step_of_failed`), and nobody waits for the call once it has returned (`moving?_of_free`). So
it leaves nothing behind but the state of the signer, of which callers see only the answers: two
states whose signers answer alike go on alike, for calls one after another (`tokens_congr`) and for
callers that are interleaved (`run_congr`).
-/

namespace BearerAuth

variable {σ : Type}

namespace Signer

/-- The answers to inputs, one after another. -/
def answers (s : Signer σ) : List Bytes → σ → List (Except SigningError Bytes)
  | [], _ => []
  | input :: later, state => (s.sign input state).1 :: s.answers later (s.sign input state).2

/-- Two states in which a signer answers the same, whatever it is asked from then on. -/
def Alike (s : Signer σ) (a b : σ) : Prop :=
  ∀ inputs, s.answers inputs a = s.answers inputs b

variable {s : Signer σ} {a b : σ}

theorem Alike.answer (h : s.Alike a b) (input : Bytes) :
    (s.sign input a).1 = (s.sign input b).1 :=
  (List.cons.inj (h [input])).1

theorem Alike.next (h : s.Alike a b) (input : Bytes) :
    s.Alike (s.sign input a).2 (s.sign input b).2 :=
  fun later => (List.cons.inj (h (input :: later))).2

end Signer

namespace Token

open Time

namespace Provider

variable (p : Provider σ)

/-- The same token is kept, and the signer answers the same. -/
structure State.Alike (a b : State σ) : Prop where
  slot : a.slot = b.slot
  signer : p.signer.Alike a.signer b.signer

section Congruence

variable {p} (now : Instant)

theorem mint_congr {a b : σ} (h : p.signer.Alike a b) :
    (p.mint now a).1 = (p.mint now b).1 ∧ p.signer.Alike (p.mint now a).2 (p.mint now b).2 := by
  obtain ⟨header, payload, hheader, hpayload⟩ := p.exists_write now
  rw [p.mint_eq hheader hpayload, p.mint_eq hheader hpayload]
  have hanswer := h.answer (octets (signingInput header payload))
  have hnext := h.next (octets (signingInput header payload))
  rcases ha : p.signer.sign (octets (signingInput header payload)) a with ⟨answer, a'⟩
  rcases hb : p.signer.sign (octets (signingInput header payload)) b with ⟨answer', b'⟩
  rw [ha, hb] at hanswer hnext
  obtain rfl : answer = answer' := hanswer
  rcases answer with f | signature
  · exact ⟨rfl, hnext⟩
  · rcases now.add? p.ttl with _ | expiresAt <;> exact ⟨rfl, hnext⟩

variable {a b : State σ}

theorem token_congr (h : State.Alike p a b) :
    (p.token now a).1 = (p.token now b).1 ∧ State.Alike p (p.token now a).2 (p.token now b).2 := by
  obtain ⟨hmint, hsigner⟩ := mint_congr now h.signer
  simp only [token_eq_renew, renew, h.slot]
  rcases lookup b.slot now with _ | t
  · exact ⟨hmint, by rw [hmint], hsigner⟩
  · exact ⟨rfl, h.slot, h.signer⟩

theorem tokens_congr : ∀ (later : List Instant) {a b : State σ}, State.Alike p a b →
    (p.tokens later a).1 = (p.tokens later b).1
      ∧ State.Alike p (p.tokens later a).2 (p.tokens later b).2
  | [], _, _, h => ⟨rfl, h⟩
  | now :: later, a, b, h => by
    obtain ⟨hanswer, hstate⟩ := token_congr now h
    obtain ⟨hanswers, hend⟩ := tokens_congr later hstate
    exact ⟨congrArg₂ List.cons hanswer hanswers, hend⟩

end Congruence

theorem kept_of_token?_eq_none {slot : Option CachedToken} {answer : Answer}
    (h : answer.token? = none) : kept slot answer = slot := by
  cases answer with
  | minted k => cases h
  | _ => rfl

variable {p} {now : Instant} {state : State σ}

theorem lookup_of_failed (h : (p.token now state).1.token? = none) :
    lookup state.slot now = none := by
  rcases hlookup : lookup state.slot now with _ | t
  · rfl
  · simp only [token, hlookup] at h
    cases h

/-- A call that fails has minted in vain, and only the signer is not as it was. -/
theorem token_of_failed (h : (p.token now state).1.token? = none) :
    p.token now state =
      ((p.mint now state.signer).1, ⟨state.slot, (p.mint now state.signer).2⟩) := by
  have hlookup := lookup_of_failed h
  simp only [token_eq_renew, renew, hlookup] at h ⊢
  rw [kept_of_token?_eq_none h]

/-- A call that finds no valid token asks the signer once. -/
theorem signings_of_lookup (hlookup : lookup state.slot now = none) {header payload : Bytes}
    (hheader : p.header.toJson.write = .ok header)
    (hpayload : (p.payload now).toJson.write = .ok payload) : p.signings [now] state =
      [(octets (signingInput header payload),
        (p.signer.sign (octets (signingInput header payload)) state.signer).1)] := by
  have hslot : state.recorded.slot = state.slot := rfl
  have hmint : p.signings [now] state = (p.recorded.mint now (state.signer, [])).2.2 := by
    simp only [signings, tokens, token_eq_renew, renew, hslot, hlookup]
    rfl
  rw [hmint, p.recorded.mint_eq hheader hpayload]
  simp only [recorded, Signer.recorded]
  rcases p.signer.sign (octets (signingInput header payload)) state.signer with ⟨_ | _, _⟩
  · rfl
  · rcases now.add? p.ttl with _ | _ <;> rfl

/-- Either the signer has failed, or it has signed and the expiry is beyond the range of dates. -/
theorem signings_of_failed (h : (p.token now state).1.token? = none) : ∃ input,
    (∃ f, p.signings [now] state = [(input, .error f)]
      ∧ (p.token now state).1 = .failed (.signing f))
    ∨ ∃ signature, p.signings [now] state = [(input, .ok signature)] ∧ now.add? p.ttl = none
      ∧ (p.token now state).1 = .outOfRange := by
  obtain ⟨header, payload, hheader, hpayload⟩ := p.exists_write now
  have hsignings := signings_of_lookup (lookup_of_failed h) hheader hpayload
  have hmint := p.mint_eq hheader hpayload state.signer
  have htoken := token_of_failed h
  rw [htoken] at h ⊢
  refine ⟨octets (signingInput header payload), ?_⟩
  rcases hsign : p.signer.sign (octets (signingInput header payload)) state.signer
    with ⟨f | signature, signer⟩
  · rw [hsign] at hsignings hmint
    exact .inl ⟨f, hsignings, congrArg Prod.fst hmint⟩
  rw [hsign] at hsignings hmint
  rcases hexpiry : now.add? p.ttl with _ | expiresAt
  · simp only [hexpiry] at hmint
    exact .inr ⟨signature, hsignings, rfl, congrArg Prod.fst hmint⟩
  · -- a token was minted, and handed out
    simp only [hexpiry] at hmint
    rw [hmint] at h
    cases h

end Provider

/-- Whether a call has either lock. -/
def Call.hasLock (call : Call) : Bool :=
  call.isReading || call.isWriting

theorem Call.hasLock_eq_false {call : Call} :
    call.hasLock = false ↔ call.isReading = false ∧ call.isWriting = false :=
  Bool.or_eq_false_iff

namespace Crowd

open Provider

variable (p : Provider σ)

theorem advance_congr {a b : State σ} (h : State.Alike p a b) (call : Call) :
    (advance p a call).2 = (advance p b call).2
      ∧ State.Alike p (advance p a call).1 (advance p b call).1 := by
  cases call with
  | looking now | checking now =>
    simp only [advance, h.slot]
    split <;> exact ⟨rfl, h⟩
  | signing now =>
    obtain ⟨hanswer, hsigner⟩ := mint_congr now h.signer
    exact ⟨by simp only [advance, hanswer], h.slot, hsigner⟩
  | storing answer => exact ⟨rfl, congrArg (kept · answer) h.slot, h.signer⟩
  | _ => exact ⟨rfl, h⟩

/-- The slot changes only in the step in which a call stores what it has minted. -/
theorem slot_advance_eq {state : State σ} {call : Call}
    (h : ∀ k, call ≠ .storing (.minted k)) : (advance p state call).1.slot = state.slot := by
  cases call with
  | looking now | checking now =>
    simp only [advance]
    split <;> rfl
  | storing answer =>
    cases answer with
    | minted k => exact absurd rfl (h k)
    | _ => rfl
  | _ => rfl

theorem minted?_advance_of_some {state : State σ} {call : Call} {k : CachedToken}
    (h : call.minted? = some k) : (advance p state call).2.1.minted? = some k := by
  cases call with
  | storing answer | leaving answer | reporting answer | returned answer => exact h
  | _ => cases h

theorem minted?_run {i : Nat} {k : CachedToken} (schedule : List Nat) {c : Crowd σ}
    (h : c.calls[i]?.bind Call.minted? = some k) :
    (run p c schedule).calls[i]?.bind Call.minted? = some k := by
  refine run_induction p (P := fun c => c.calls[i]?.bind Call.minted? = some k)
    (fun c j h => ?_) schedule h
  rcases hm : c.moving? j with _ | call
  · rwa [step_of_none p hm]
  rw [calls_step_of_some p hm]
  split_ifs with hij
  · rw [← hij, (moving?_eq_some.1 hm).1] at h
    exact minted?_advance_of_some p h
  · exact h

/-- No step of a call that hands out no token changes what is kept. -/
theorem slot_step_of_failed {c : Crowd σ} {pre post : List Nat} {i : Nat} {answer : Answer}
    (hreturned : (run p c (pre ++ i :: post)).calls[i]? = some (.returned answer))
    (hanswer : answer.token? = none) :
    (run p c (pre ++ [i])).state.slot = (run p c pre).state.slot := by
  rw [run_append_singleton]
  rcases hm : (run p c pre).moving? i with _ | call
  · rw [step_of_none p hm]
  rw [step_of_some p hm]
  refine slot_advance_eq p fun k hcall => ?_
  have hminted : (run p c (pre ++ [i])).calls[i]?.bind Call.minted? = some k := by
    rw [run_append_singleton, calls_step_of_some p hm, if_pos rfl, hcall]
    rfl
  -- the call would have it still when it returns
  have hend := minted?_run p post hminted
  rw [← run_append, List.append_assoc, List.singleton_append, hreturned] at hend
  cases answer with
  | minted k => cases hanswer
  | _ => cases hend

/-- Where nobody has a lock, nobody has to wait. -/
theorem moving?_of_free {c : Crowd σ} (h : ∀ call ∈ c.calls, call.hasLock = false) (j : Nat) :
    c.moving? j = c.calls[j]? := by
  simp only [Call.hasLock_eq_false] at h
  have hmay : ∀ call : Call, call.mayStep c.calls = true := by
    intro call
    cases call with
    | started now => simpa [Call.mayStep] using fun other hother => (h other hother).2
    | waiting now => simpa [Call.mayStep] using h
    | _ => rfl
  simp only [moving?, hmay]
  rcases c.calls[j]? with _ | call <;> rfl

/-- Two crowds alike in all but one call, which has no lock in either. -/
structure AlikeBut (i : Nat) (c d : Crowd σ) : Prop where
  state : State.Alike p c.state d.state
  others : ∀ j, j ≠ i → c.calls[j]? = d.calls[j]?
  free : ∀ call ∈ c.calls[i]?, call.hasLock = false
  free' : ∀ call ∈ d.calls[i]?, call.hasLock = false
  seen : c.seen = d.seen

theorem any_of_others {calls calls' : List Call} {i : Nat} {f : Call → Bool}
    (hothers : ∀ j, j ≠ i → calls[j]? = calls'[j]?) (hi : ∀ call ∈ calls[i]?, f call = false)
    (h : calls.any f) : calls'.any f := by
  simp only [List.any_eq_true, List.mem_iff_getElem?] at h ⊢
  obtain ⟨call, ⟨j, hj⟩, hcall⟩ := h
  have hne : j ≠ i := by
    rintro rfl
    simp [hi call hj] at hcall
  exact ⟨call, ⟨j, hothers j hne ▸ hj⟩, hcall⟩

section AlikeBut

variable {p} {i j : Nat} {c d : Crowd σ}

/-- What is true of no call without a lock is true of some call in both crowds or in neither. -/
theorem AlikeBut.any_eq {f : Call → Bool} (h : AlikeBut p i c d)
    (hf : ∀ call, call.hasLock = false → f call = false) : c.calls.any f = d.calls.any f := by
  rw [Bool.eq_iff_iff]
  constructor
  · exact any_of_others h.others fun call hcall => hf call (h.free call hcall)
  · exact any_of_others (fun j hj => (h.others j hj).symm)
      fun call hcall => hf call (h.free' call hcall)

theorem AlikeBut.mayStep_eq (h : AlikeBut p i c d) (call : Call) :
    call.mayStep c.calls = call.mayStep d.calls := by
  cases call with
  | started now =>
    have hany := h.any_eq fun _ hcall => (Call.hasLock_eq_false.1 hcall).2
    simp only [Call.mayStep, hany]
  | waiting now =>
    have hany := h.any_eq (f := Call.hasLock) fun _ hcall => hcall
    exact congrArg not hany
  | _ => rfl

theorem AlikeBut.moving?_eq (h : AlikeBut p i c d) (hj : j ≠ i) : c.moving? j = d.moving? j := by
  simp only [moving?, h.others j hj, h.mayStep_eq]

theorem AlikeBut.step (h : AlikeBut p i c d) (hj : j ≠ i) :
    AlikeBut p i (step p c j) (step p d j) := by
  have hmoving := h.moving?_eq hj
  rcases hm : c.moving? j with _ | call
  · rw [hm] at hmoving
    rwa [step_of_none p hm, step_of_none p hmoving.symm]
  rw [hm] at hmoving
  obtain ⟨hadvance, hstate⟩ := advance_congr p h.state call
  refine ⟨?_, fun k hk => ?_, fun other hother => ?_, fun other hother => ?_, ?_⟩
  · rwa [step_of_some p hm, step_of_some p hmoving.symm]
  · rw [calls_step_of_some p hm, calls_step_of_some p hmoving.symm, hadvance, h.others k hk]
  · rw [calls_step_of_some p hm, if_neg hj] at hother
    exact h.free other hother
  · rw [calls_step_of_some p hmoving.symm, if_neg hj] at hother
    exact h.free' other hother
  · rw [step_of_some p hm, step_of_some p hmoving.symm, hadvance, hstate.slot, h.seen]

theorem run_congr : ∀ (later : List Nat) {c d : Crowd σ}, AlikeBut p i c d → i ∉ later →
    AlikeBut p i (run p c later) (run p d later)
  | [], _, _, h, _ => h
  | j :: later, c, d, h, hi => by
    rw [List.mem_cons, not_or] at hi
    exact run_congr later (h.step (Ne.symm hi.1)) hi.2

end AlikeBut

/-- The crowd as if a call had not begun, with a signer of its own. -/
def without (c : Crowd σ) (i : Nat) (now : Instant) (signer : σ) : Crowd σ :=
  ⟨⟨c.state.slot, signer⟩, c.calls.set i (.started now), c.seen⟩

theorem alikeBut_without {c : Crowd σ} {i : Nat} {answer : Answer} {signer : σ}
    (hreturned : c.calls[i]? = some (.returned answer))
    (halike : p.signer.Alike c.state.signer signer) (now : Instant) :
    AlikeBut p i c (c.without i now signer) where
  state := ⟨rfl, halike⟩
  others j hj := (List.getElem?_set_ne hj.symm).symm
  free call hcall := by
    rw [hreturned] at hcall
    cases hcall
    rfl
  free' call hcall := by
    rw [without, List.getElem?_set_self (List.getElem?_eq_some_iff.1 hreturned).1] at hcall
    cases hcall
    rfl
  seen := rfl

/-- A call that hands out no token leaves nothing behind but the state of the signer. It has asked
the signer once, and either the signer failed or the expiry is beyond the range of dates. What is
kept is as it was, and calls that follow end, with a signer that answers the same, as if it had not
been made. When callers are interleaved, no step of such a call changes what is kept, it has no lock
once it has returned, and from then on all others go on as if it had not begun. -/
theorem failed_call_leaves_no_trace (p : Provider σ) :
    (∀ (state : State σ) (now : Instant), (p.token now state).1.token? = none →
      (p.token now state).2.slot = state.slot
      ∧ (∃ input, (∃ f, p.signings [now] state = [(input, .error f)]
          ∧ (p.token now state).1 = .failed (.signing f))
        ∨ ∃ signature, p.signings [now] state = [(input, .ok signature)] ∧ now.add? p.ttl = none
          ∧ (p.token now state).1 = .outOfRange)
      ∧ ∀ signer, p.signer.Alike (p.token now state).2.signer signer → ∀ later,
        (p.tokens later (p.token now state).2).1 = (p.tokens later ⟨state.slot, signer⟩).1
        ∧ State.Alike p (p.tokens later (p.token now state).2).2
          (p.tokens later ⟨state.slot, signer⟩).2)
    ∧ ∀ (start : State σ) (nows : List Instant) (schedule : List Nat) (c : Crowd σ) (i : Nat)
      (answer : Answer), run p (asking start nows) schedule = c →
      c.calls[i]? = some (.returned answer) → answer.token? = none →
      (∀ pre post, schedule = pre ++ i :: post →
        (run p (asking start nows) (pre ++ [i])).state.slot
          = (run p (asking start nows) pre).state.slot)
      ∧ ((∀ j call, j ≠ i → c.calls[j]? = some call → call.hasLock = false) →
        ∀ j, c.moving? j = c.calls[j]?)
      ∧ ∀ now signer, p.signer.Alike c.state.signer signer → ∀ later, i ∉ later →
        AlikeBut p i (run p c later) (run p (c.without i now signer) later) := by
  constructor
  · intro state now h
    have hslot : (p.token now state).2.slot = state.slot := by rw [token_of_failed h]
    refine ⟨hslot, signings_of_failed h, fun signer halike later => ?_⟩
    have hstate : State.Alike p (p.token now state).2 ⟨state.slot, signer⟩ := ⟨hslot, halike⟩
    exact tokens_congr later hstate
  · rintro start nows schedule c i answer rfl hreturned hanswer
    refine ⟨?_, fun hothers => moving?_of_free fun call hcall => ?_, fun now signer halike later =>
      run_congr later (alikeBut_without p hreturned halike now)⟩
    · rintro pre post rfl
      exact slot_step_of_failed p hreturned hanswer
    · obtain ⟨j, hj⟩ := List.mem_iff_getElem?.1 hcall
      by_cases hij : j = i
      · rw [hij, hreturned] at hj
        cases hj
        rfl
      · exact hothers j call hij hj

/-- A token is kept that has expired, and the signer is out of order. -/
def faulty : State SigningStation :=
  ⟨some ⟨⟨"kept"⟩, epoch, epoch⟩, ⟨1, some "down"⟩⟩

/-- Out of order, a signer answers the same however often it was called. -/
theorem alike_of_fault (m : SigningMethod) (message : String) (n k : Nat) :
    m.toSigner.Alike ⟨n, some message⟩ ⟨k, some message⟩ := by
  intro inputs
  induction inputs generalizing n k with
  | nil => rfl
  | cons input later ih => exact congrArg (List.cons _) (ih (n + 1) (k + 1))

/-- The call fails, the signer has counted it, and all calls that follow end as if it had not been
made. -/
theorem no_trace_of_fault :
    (numbering.token epoch faulty).1.token? = none
      ∧ (numbering.token epoch faulty).2.signer ≠ faulty.signer
      ∧ (numbering.token epoch faulty).2.slot = faulty.slot
      ∧ ∀ later, (numbering.tokens later (numbering.token epoch faulty).2).1
        = (numbering.tokens later faulty).1 := by
  have hfailed : (numbering.token epoch faulty).1.token? = none := by decide
  obtain ⟨hslot, -, hlater⟩ := (failed_call_leaves_no_trace numbering).1 faulty epoch hfailed
  have hsigner : (numbering.token epoch faulty).2.signer = ⟨2, some "down"⟩ := by decide
  refine ⟨hfailed, by decide, hslot, fun later => (hlater faulty.signer ?_ later).1⟩
  rw [hsigner]
  exact alike_of_fault _ _ _ _

end Crowd

end Token

end BearerAuth
