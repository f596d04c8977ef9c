import BearerAuth.Observe.Hook
import BearerAuth.Proofs.Token.Failure
import Mathlib.Algebra.Order.BigOperators.Group.List

/-!
# What is counted, logged, kept and signed

A call moves the signer, the slot, the counters and the log in different steps, and other calls may
step in between. But each of them is at every moment the sum of what the calls have done to it so
far (`sum_calls_step`): the signer was asked by every call that has left the signing step
(`length_signings_run`), the slot was replaced by every call that has stored what it minted
(`countP_stored_run`), and what was emitted are the reports of the calls that have returned
(`countP_emitted_run`). When no call is in progress, all of them are counts of answers
(`sum_calls_of_resting`), and these counts fit together.

A record that is emitted reaches the logger that the provider has, and without one nobody
(`receipts_silent`). A call reports when it has given back the exclusive lock, which another call
may have by then (`unheard_and_overtaken`).
-/

namespace BearerAuth.Token

open Time

variable {σ : Type}

namespace Answer

def isCached : Answer → Bool
  | cached _ => true
  | _ => false

def isMinted : Answer → Bool
  | minted _ => true
  | _ => false

def isFailed : Answer → Bool
  | failed _ => true
  | _ => false

def isOutOfRange : Answer → Bool
  | outOfRange => true
  | _ => false

theorem countP_not_isCached (answers : List Answer) : answers.countP (!·.isCached)
    = answers.countP isMinted + answers.countP isFailed + answers.countP isOutOfRange := by
  induction answers with
  | nil => rfl
  | cons answer answers ih =>
    simp only [List.countP_cons, ih]
    cases answer <;> simp only [isCached, isMinted, isFailed, isOutOfRange, Bool.not_true,
      Bool.not_false, Bool.false_eq_true, if_true, if_false] <;> omega

end Answer

namespace Call

/-- Whether a call is not in progress. -/
def isResting : Call → Bool
  | started _ | returned _ => true
  | _ => false

def isSigning : Call → Bool
  | signing _ => true
  | _ => false

def hasSigned : Call → Bool
  | storing answer | leaving answer | reporting answer | returned answer => !answer.isCached
  | _ => false

/-- The token that the next step of a call puts into the slot. -/
def storing? : Call → Option CachedToken
  | storing answer => answer.minted?
  | _ => none

def stored? : Call → Option CachedToken
  | leaving answer | reporting answer | returned answer => answer.minted?
  | _ => none

def reported (p : Provider σ) : Call → List Emission
  | returned answer => p.report answer
  | _ => []

/-- Whoever has a lock need not wait for one. -/
theorem mayStep_of_hasLock {call : Call} (h : call.hasLock) (calls : List Call) :
    call.mayStep calls := by
  cases call with
  | started _ | waiting _ => cases h
  | _ => rfl

end Call

namespace Provider

variable (p : Provider σ)

theorem isCached_mint (now : Instant) (state : σ) : (p.mint now state).1.isCached = false := by
  unfold mint
  split
  · rfl
  · split <;> rfl

theorem length_mint_recorded (now : Instant) (state : σ × List SigningCall) :
    (p.recorded.mint now state).2.2.length = state.2.length + 1 := by
  obtain ⟨header, payload, hheader, hpayload⟩ := p.recorded.exists_write now
  rw [p.recorded.mint_eq hheader hpayload]
  simp only [recorded, Signer.recorded]
  rcases p.signer.sign (octets (signingInput header payload)) state.1 with ⟨_ | _, _⟩
  · exact List.length_append
  · rcases now.add? p.ttl with _ | _ <;> exact List.length_append

end Provider

namespace Crowd

section Step

variable {p : Provider σ} {state : Provider.State σ}

theorem hasSigned_advance (call : Call) :
    (advance p state call).2.1.hasSigned = (call.isSigning || call.hasSigned) := by
  cases call with
  | looking now | checking now =>
    simp only [advance]
    split <;> rfl
  | signing now =>
    simp only [advance, Call.hasSigned, p.isCached_mint]
    rfl
  | _ => rfl

theorem toNat_hasSigned_advance (call : Call) : (advance p state call).2.1.hasSigned.toNat
    = call.hasSigned.toNat + call.isSigning.toNat := by
  rw [hasSigned_advance]
  cases call <;> rfl

theorem length_signer_advance (state : Provider.State (σ × List SigningCall)) (call : Call) :
    (advance p.recorded state call).1.signer.2.length
      = state.signer.2.length + call.isSigning.toNat := by
  cases call with
  | looking now | checking now =>
    simp only [advance]
    split <;> rfl
  | signing now => exact p.length_mint_recorded now state.signer
  | _ => rfl

theorem stored?_advance (call : Call) : (advance p state call).2.1.stored?.toList
    = call.stored?.toList ++ call.storing?.toList := by
  cases call with
  | looking now | checking now =>
    simp only [advance]
    split <;> rfl
  | storing answer => rfl
  | _ => exact (List.append_nil _).symm

theorem slot_advance_storing? (call : Call) :
    (advance p state call).1.slot = call.storing?.or state.slot := by
  cases call with
  | looking now | checking now =>
    simp only [advance]
    split <;> rfl
  | storing answer => exact Provider.kept_eq state.slot answer
  | _ => rfl

theorem reported_advance (call : Call) : (advance p state call).2.1.reported p
    = call.reported p ++ (advance p state call).2.2 := by
  cases call with
  | looking now | checking now =>
    simp only [advance]
    split <;> rfl
  | returned answer => exact (List.append_nil _).symm
  | _ => rfl

theorem exists_reporting_of_emitted {call : Call} (h : (advance p state call).2.2 ≠ []) :
    ∃ answer, call = .reporting answer := by
  cases call with
  | reporting answer => exact ⟨answer, rfl⟩
  | looking now | checking now =>
    simp only [advance] at h
    split at h <;> exact absurd rfl h
  | _ => exact absurd rfl h

end Step

section Sum

variable {p : Provider σ} {c : Crowd σ} {i : Nat} {call : Call}

/-- A step adds to a sum over all calls what it adds for its own call. -/
theorem sum_calls_step (f : Call → Nat) (hm : c.moving? i = some call) {gain : Nat}
    (h : f (advance p c.state call).2.1 = f call + gain) :
    ((step p c i).calls.map f).sum = (c.calls.map f).sum + gain := by
  obtain ⟨hi, hcall⟩ := List.getElem?_eq_some_iff.1 (moving?_eq_some.1 hm).1
  have hsplit : c.calls = c.calls.take i ++ call :: c.calls.drop (i + 1) := by
    rw [← hcall, List.getElem_cons_drop, List.take_append_drop]
  rw [step_of_some p hm]
  simp only [List.set_eq_take_append_cons_drop, if_pos hi]
  conv_rhs => rw [hsplit]
  simp only [List.map_append, List.map_cons, List.sum_append, List.sum_cons, h]
  omega

theorem sum_calls_asking {f : Call → Nat} (h : ∀ now, f (.started now) = 0)
    (state : Provider.State σ) (nows : List Instant) :
    ((asking state nows).calls.map f).sum = 0 := by
  rw [List.sum_eq_zero]
  simp [asking, h]

/-- What is a sum over all calls is one over their answers once none is in progress. -/
theorem sum_calls_of_resting {f : Call → Nat} {q : Answer → Bool}
    (hstarted : ∀ now, f (.started now) = 0)
    (hreturned : ∀ answer, f (.returned answer) = if q answer then 1 else 0)
    (h : ∀ call ∈ c.calls, call.isResting) : (c.calls.map f).sum = c.answers.countP q := by
  obtain ⟨state, calls, seen⟩ := c
  simp only [answers] at h ⊢
  induction calls with
  | nil => rfl
  | cons call calls ih =>
    have ih := ih fun call hcall => h call (List.mem_cons_of_mem _ hcall)
    have hcall := h call List.mem_cons_self
    cases call with
    | started now => simpa [hstarted] using ih
    | returned answer => simp [hreturned, ih, List.countP_cons, Nat.add_comm]
    | _ => cases hcall

end Sum

section Run

variable (p : Provider σ)

/-- What was emitted, without the slot at that time. -/
def emitted (c : Crowd σ) : List Emission :=
  c.seen.map Prod.fst

def storing (c : Crowd σ) (i : Nat) : List CachedToken :=
  ((c.moving? i).bind Call.storing?).toList

/-- The tokens that are put into the slot in a run, in this order. -/
def stored (c : Crowd σ) : List Nat → List CachedToken
  | [] => []
  | i :: schedule => c.storing i ++ stored (step p c i) schedule

theorem stored_append_singleton (i : Nat) : ∀ (schedule : List Nat) (c : Crowd σ),
    stored p c (schedule ++ [i]) = stored p c schedule ++ (run p c schedule).storing i
  | [], c => List.append_nil _
  | j :: schedule, c => by
    rw [List.cons_append, stored, stored_append_singleton i schedule, stored, List.append_assoc]
    rfl

theorem emitted_step_of_some {c : Crowd σ} {i : Nat} {call : Call} (hm : c.moving? i = some call) :
    (step p c i).emitted = c.emitted ++ (advance p c.state call).2.2 := by
  simp only [step_of_some p hm, emitted, List.map_append, List.map_map, Function.comp_def,
    List.map_id']

/-- What a step emits is what its call reports. -/
theorem seen_step (c : Crowd σ) (i : Nat) : ∃ new, (step p c i).seen = c.seen ++ new
    ∧ (new ≠ [] → ∃ answer, c.calls[i]? = some (.reporting answer)
      ∧ new = (p.report answer).map fun e => (e, c.state.slot.isSome)) := by
  rcases hm : c.moving? i with _ | call
  · exact ⟨[], by rw [step_of_none p hm, List.append_nil], fun h => absurd rfl h⟩
  rw [step_of_some p hm]
  refine ⟨_, rfl, fun h => ?_⟩
  obtain ⟨answer, rfl⟩ := exists_reporting_of_emitted (mt (congrArg (List.map _)) h)
  exact ⟨answer, (moving?_eq_some.1 hm).1, rfl⟩

theorem countP_emitted_run (P : Emission → Bool) (start : Provider.State σ) (nows : List Instant)
    (schedule : List Nat) : (run p (asking start nows) schedule).emitted.countP P
      = ((run p (asking start nows) schedule).calls.map
          fun call => (call.reported p).countP P).sum := by
  refine run_induction p (P := fun c => c.emitted.countP P
    = (c.calls.map fun call => (call.reported p).countP P).sum) (fun c i h => ?_) schedule ?_
  · rcases hm : c.moving? i with _ | call
    · rwa [step_of_none p hm]
    rw [emitted_step_of_some p hm, List.countP_append, h]
    refine (sum_calls_step _ hm ?_).symm
    rw [reported_advance, List.countP_append]
  · rw [sum_calls_asking fun now => List.countP_nil]
    exact List.countP_nil

/-- Every token that is put into the slot is put there by a call of its own. -/
theorem countP_stored_run (P : CachedToken → Bool) (start : Provider.State σ) (nows : List Instant)
    (schedule : List Nat) : (stored p (asking start nows) schedule).countP P
      = ((run p (asking start nows) schedule).calls.map
          fun call => call.stored?.toList.countP P).sum := by
  induction schedule using List.reverseRecOn with
  | nil => exact (sum_calls_asking (fun _ => rfl) start nows).symm
  | append_singleton schedule i ih =>
    rw [stored_append_singleton, List.countP_append, ih, run_append_singleton, storing]
    rcases hm : (run p (asking start nows) schedule).moving? i with _ | call
    · rw [step_of_none p hm]
      rfl
    · refine (sum_calls_step _ hm ?_).symm
      rw [stored?_advance, List.countP_append]
      rfl

theorem slot_run (c : Crowd σ) (schedule : List Nat) :
    (run p c schedule).state.slot = (stored p c schedule).getLast?.or c.state.slot := by
  induction schedule using List.reverseRecOn with
  | nil => rfl
  | append_singleton schedule i ih =>
    rw [stored_append_singleton, run_append_singleton, List.getLast?_append, Option.or_assoc, ← ih,
      storing]
    rcases hm : (run p c schedule).moving? i with _ | call
    · rw [step_of_none p hm]
      rfl
    · rw [step_of_some p hm, slot_advance_storing?]
      cases hs : call.storing? <;> simp [hs]

theorem mem_stored_of_stored? {start : Provider.State σ} {nows : List Instant}
    {schedule : List Nat} {call : Call} {t : CachedToken}
    (hcall : call ∈ (run p (asking start nows) schedule).calls) (ht : call.stored? = some t) :
    t ∈ stored p (asking start nows) schedule := by
  have hle := List.single_le_sum (fun _ _ => Nat.zero_le _) _
    (List.mem_map_of_mem (f := fun call => call.stored?.toList.countP (· = t)) hcall)
  rw [← countP_stored_run, ht] at hle
  simpa using hle

/-- Every call asks the signer at most once, and has asked it when it has an answer of its own. -/
theorem length_signings_run (start : Provider.State σ) (nows : List Instant)
    (schedule : List Nat) : (signings p (asking start nows) schedule).length
      = ((run p (asking start nows) schedule).calls.map fun call => call.hasSigned.toNat).sum := by
  -- the run is watched with a signer that records its calls, which changes nothing else
  have hcalls := congrArg Crowd.calls (run_recorded p schedule (asking start nows).recorded)
  rw [show (asking start nows) = (asking start nows).recorded.unrecorded from rfl, hcalls]
  refine run_induction p.recorded (P := fun c => c.state.signer.2.length
    = (c.calls.map fun call => call.hasSigned.toNat).sum) (fun c i h => ?_) schedule ?_
  · rcases hm : c.moving? i with _ | call
    · rwa [step_of_none p.recorded hm]
    rw [sum_calls_step _ hm (toNat_hasSigned_advance call), ← h, step_of_some p.recorded hm]
    exact length_signer_advance c.state call
  · exact (sum_calls_asking (fun _ => rfl) start nows).symm

end Run

section Cached

variable {p : Provider σ}

theorem hasSigned_run {i : Nat} (schedule : List Nat) {c : Crowd σ}
    (h : c.calls[i]?.any Call.hasSigned) : (run p c schedule).calls[i]?.any Call.hasSigned := by
  refine run_induction p (P := fun c => c.calls[i]?.any Call.hasSigned) (fun c j h => ?_) schedule h
  rcases hm : c.moving? j with _ | call
  · rwa [step_of_none p hm]
  rw [calls_step_of_some p hm]
  split_ifs with hij
  · rw [← hij, (moving?_eq_some.1 hm).1] at h
    rw [Option.any_some] at h ⊢
    rw [hasSigned_advance, h, Bool.or_true]
  · exact h

theorem not_signing_of_cached {c : Crowd σ} {pre post : List Nat} {i : Nat} {token : Secret}
    {call : Call} (hm : (run p c pre).moving? i = some call)
    (h : (run p c (pre ++ i :: post)).calls[i]? = some (.returned (.cached token))) :
    call.isSigning = false ∧ call.hasSigned = false := by
  have hadvance : (advance p (run p c pre).state call).2.1.hasSigned
      = (call.isSigning || call.hasSigned) := hasSigned_advance call
  rw [← Bool.or_eq_false_iff, ← hadvance]
  by_contra hsigned
  rw [Bool.not_eq_false] at hsigned
  -- it would still have signed when it returns
  have hnext : (run p c (pre ++ [i])).calls[i]?.any Call.hasSigned := by
    rw [run_append_singleton, calls_step_of_some p hm, if_pos rfl, Option.any_some, hsigned]
  have hend := hasSigned_run (p := p) post hnext
  rw [← run_append, List.append_assoc, List.singleton_append, h] at hend
  cases hend

/-- A step of a call that does not sign leaves no mark but on the call. -/
theorem advance_of_not_signing (p : Provider σ) (state : Provider.State σ) {call : Call}
    (hsigning : call.isSigning = false) (hsigned : call.hasSigned = false) :
    (advance p state call).1.signer = state.signer ∧ call.storing? = none
      ∧ (advance p state call).2.2 = [] := by
  cases call with
  | looking now | checking now =>
    simp only [advance]
    split <;> exact ⟨rfl, rfl, rfl⟩
  | signing now => cases hsigning
  | storing answer | reporting answer =>
    cases answer with
    | cached token => exact ⟨rfl, rfl, rfl⟩
    | _ => cases hsigned
  | _ => exact ⟨rfl, rfl, rfl⟩

/-- What a call does that gets the kept token is nothing but to look at it. -/
theorem step_of_cached {start : Provider.State σ} {nows : List Instant} {pre post : List Nat}
    {i : Nat} {token : Secret} (h : (run p (asking start nows) (pre ++ i :: post)).calls[i]?
      = some (.returned (.cached token))) :
    (run p (asking start nows) (pre ++ [i])).seen = (run p (asking start nows) pre).seen
      ∧ signings p (asking start nows) (pre ++ [i]) = signings p (asking start nows) pre
      ∧ stored p (asking start nows) (pre ++ [i]) = stored p (asking start nows) pre
      ∧ (run p (asking start nows) (pre ++ [i])).state.slot
        = (run p (asking start nows) pre).state.slot := by
  have hmoving : (run p.recorded (asking start nows).recorded pre).moving? i
      = (run p (asking start nows) pre).moving? i :=
    congrArg (·.moving? i) (run_recorded p pre (asking start nows).recorded).symm
  simp only [stored_append_singleton, run_append_singleton, signings, storing]
  rcases hm : (run p (asking start nows) pre).moving? i with _ | call
  · rw [step_of_none p hm, step_of_none p.recorded (hmoving.trans hm)]
    simp
  · obtain ⟨hsigning, hsigned⟩ := not_signing_of_cached hm h
    obtain ⟨hsigner, -, -⟩ := advance_of_not_signing p.recorded
      (run p.recorded (asking start nows).recorded pre).state hsigning hsigned
    obtain ⟨-, hstoring, hemitted⟩ :=
      advance_of_not_signing p (run p (asking start nows) pre).state hsigning hsigned
    rw [step_of_some p hm, step_of_some p.recorded (hmoving.trans hm)]
    simp [hsigner, hstoring, hemitted, slot_advance_storing?]

end Cached

section Totals

/-- What reaches whom of what was emitted, where the provider has a logger. -/
def receipts (c : Crowd σ) (logger : Logger) : List Receipt :=
  c.emitted.flatMap (·.receipts logger)

/-- All records that are emitted reach the recorder that is attached, in their order. -/
theorem recordsAt_receipts (c : Crowd σ) (name : String) :
    Receipt.recordsAt name (c.receipts (.recorder name)) = Emission.records c.emitted := by
  unfold receipts
  induction c.emitted with
  | nil => rfl
  | cons e es ih =>
    rw [List.flatMap_cons, Receipt.recordsAt, List.filterMap_append]
    cases e with
    | counted o => exact ih
    | logged r =>
      simp only [Emission.receipts, Logger.receive, Emission.records, List.filterMap_cons,
        List.filterMap_nil, if_true]
      exact congrArg (r :: ·) ih

theorem receipts_silent (c : Crowd σ) : c.receipts .silent = [] := by
  refine List.flatMap_eq_nil_iff.2 fun e _ => ?_
  cases e <;> rfl

def mintTotal (c : Crowd σ) (o : MintOutcome) : Nat :=
  c.emitted.countP fun
    | .counted (.mint o') => o' = o
    | _ => false

def logged (c : Crowd σ) (level : Level) (message : String) : Nat :=
  c.emitted.countP fun
    | .logged r => r.level = level ∧ r.message = message
    | _ => false

variable {p : Provider σ} {start : Provider.State σ} {nows : List Instant} {schedule : List Nat}

/-- Of what is emitted at most once in a call, there is as much as there are answers that have it
emitted. -/
theorem countP_emitted_of_resting {P : Emission → Bool} {q : Answer → Bool}
    (hP : ∀ answer, (p.report answer).countP P = if q answer then 1 else 0)
    (h : ∀ call ∈ (run p (asking start nows) schedule).calls, call.isResting) :
    (run p (asking start nows) schedule).emitted.countP P
      = (run p (asking start nows) schedule).answers.countP q := by
  rw [countP_emitted_run]
  exact sum_calls_of_resting (fun _ => List.countP_nil) hP h

theorem mintTotal_success_of_resting
    (h : ∀ call ∈ (run p (asking start nows) schedule).calls, call.isResting) :
    (run p (asking start nows) schedule).mintTotal .success
      = (run p (asking start nows) schedule).answers.countP Answer.isMinted :=
  countP_emitted_of_resting (fun answer => by cases answer <;> rfl) h

theorem mintTotal_failure_of_resting
    (h : ∀ call ∈ (run p (asking start nows) schedule).calls, call.isResting) :
    (run p (asking start nows) schedule).mintTotal .failure
      = (run p (asking start nows) schedule).answers.countP Answer.isFailed :=
  countP_emitted_of_resting (fun answer => by cases answer <;> rfl) h

theorem logged_info_of_resting
    (h : ∀ call ∈ (run p (asking start nows) schedule).calls, call.isResting) :
    (run p (asking start nows) schedule).logged .info "Token generated successfully."
      = (run p (asking start nows) schedule).answers.countP Answer.isMinted :=
  countP_emitted_of_resting
    (fun answer => by cases answer <;> simp [Provider.report, Answer.isMinted]) h

theorem logged_warn_of_resting
    (h : ∀ call ∈ (run p (asking start nows) schedule).calls, call.isResting) :
    (run p (asking start nows) schedule).logged .warn "Token signing failed."
      = (run p (asking start nows) schedule).answers.countP Answer.isFailed :=
  countP_emitted_of_resting
    (fun answer => by cases answer <;> simp [Provider.report, Answer.isFailed]) h

theorem length_stored_of_resting
    (h : ∀ call ∈ (run p (asking start nows) schedule).calls, call.isResting) :
    (stored p (asking start nows) schedule).length
      = (run p (asking start nows) schedule).answers.countP Answer.isMinted := by
  rw [← List.countP_true, countP_stored_run]
  refine sum_calls_of_resting (fun _ => rfl) (fun answer => ?_) h
  cases answer <;> rfl

theorem length_signings_of_resting
    (h : ∀ call ∈ (run p (asking start nows) schedule).calls, call.isResting) :
    (signings p (asking start nows) schedule).length
      = (run p (asking start nows) schedule).answers.countP (!·.isCached) := by
  rw [length_signings_run]
  refine sum_calls_of_resting (fun _ => rfl) (fun answer => ?_) h
  cases answer <;> rfl

/-- While a call reports, nobody has a lock but others, who can go on. -/
theorem free_of_reporting {c : Crowd σ} {i : Nat} {answer : Answer}
    (hi : c.calls[i]? = some (.reporting answer)) :
    (∀ j call, c.calls[j]? = some call → call.hasLock → j ≠ i ∧ c.moving? j = some call)
    ∧ ((∀ j call, j ≠ i → c.calls[j]? = some call → call.hasLock = false) →
      ∀ now, (Call.waiting now).mayStep c.calls) := by
  constructor
  · intro j call hj hlock
    refine ⟨?_, moving?_eq_some.2 ⟨hj, Call.mayStep_of_hasLock hlock _⟩⟩
    rintro rfl
    rw [hi] at hj
    cases hj
    cases hlock
  · intro hothers now
    have hfree : c.calls.any Call.hasLock = false := by
      refine List.any_eq_false.2 fun call hcall => ?_
      obtain ⟨j, hj⟩ := List.mem_iff_getElem?.1 hcall
      by_cases hij : j = i
      · rw [hij, hi] at hj
        cases hj
        simp [Call.hasLock, Call.isReading, Call.isWriting]
      · simp [hothers j call hij hj]
    exact congrArg not hfree

end Totals

/-- However calls are interleaved, what is counted, logged, kept and signed goes together. When no
call is in progress, each success that was counted stands for one token that was put into the slot
and for one record of it, each failure for one call that has failed and for one record of it, and
the signer was asked once for each of these and for each call whose expiry was out of range. The
records reach the recorder that is attached, and nobody if none is. Calls that get the kept token
change none of this. What is emitted is emitted when the call has given back the exclusive lock:
whoever has a lock at that moment is another call, which need not wait, and if there is no such call
the lock can be had. A success is emitted when its token has been put into the slot, which is not
empty from then on. -/
theorem run_accounts (p : Provider σ) (start : Provider.State σ) (nows : List Instant)
    (schedule : List Nat) :
    ((∀ call ∈ (run p (asking start nows) schedule).calls, call.isResting) →
      (run p (asking start nows) schedule).mintTotal .success
          = (stored p (asking start nows) schedule).length
      ∧ (run p (asking start nows) schedule).logged .info "Token generated successfully."
          = (stored p (asking start nows) schedule).length
      ∧ (run p (asking start nows) schedule).mintTotal .failure
          = (run p (asking start nows) schedule).answers.countP Answer.isFailed
      ∧ (run p (asking start nows) schedule).logged .warn "Token signing failed."
          = (run p (asking start nows) schedule).answers.countP Answer.isFailed
      ∧ (signings p (asking start nows) schedule).length
          = (run p (asking start nows) schedule).mintTotal .success
            + (run p (asking start nows) schedule).mintTotal .failure
            + (run p (asking start nows) schedule).answers.countP Answer.isOutOfRange)
    ∧ (∀ name, Receipt.recordsAt name
        ((run p (asking start nows) schedule).receipts (.recorder name))
          = Emission.records (run p (asking start nows) schedule).emitted)
    ∧ (run p (asking start nows) schedule).receipts .silent = []
    ∧ (run p (asking start nows) schedule).state.slot
        = (stored p (asking start nows) schedule).getLast?.or start.slot
    ∧ (∀ pre i post token, schedule = pre ++ i :: post →
      (run p (asking start nows) schedule).calls[i]? = some (.returned (.cached token)) →
      (run p (asking start nows) (pre ++ [i])).seen = (run p (asking start nows) pre).seen
        ∧ signings p (asking start nows) (pre ++ [i]) = signings p (asking start nows) pre
        ∧ stored p (asking start nows) (pre ++ [i]) = stored p (asking start nows) pre
        ∧ (run p (asking start nows) (pre ++ [i])).state.slot
          = (run p (asking start nows) pre).state.slot)
    ∧ ∀ pre i post, schedule = pre ++ i :: post → ∃ new,
      (run p (asking start nows) (pre ++ [i])).seen = (run p (asking start nows) pre).seen ++ new
      ∧ (new ≠ [] → ∃ answer,
        (run p (asking start nows) pre).calls[i]? = some (.reporting answer)
        ∧ new.map Prod.fst = p.report answer
        ∧ (∀ j call, (run p (asking start nows) pre).calls[j]? = some call → call.hasLock →
          j ≠ i ∧ (run p (asking start nows) pre).moving? j = some call)
        ∧ ((∀ j call, j ≠ i → (run p (asking start nows) pre).calls[j]? = some call →
          call.hasLock = false) →
            ∀ now, (Call.waiting now).mayStep (run p (asking start nows) pre).calls)
        ∧ ∀ t, answer = .minted t → t ∈ stored p (asking start nows) pre
          ∧ (run p (asking start nows) pre).state.slot.isSome ∧ ∀ e ∈ new, e.2 = true) := by
  refine ⟨fun hresting => ?_, recordsAt_receipts _, receipts_silent _, slot_run p _ schedule,
    ?_, ?_⟩
  · rw [mintTotal_success_of_resting hresting, logged_info_of_resting hresting,
      mintTotal_failure_of_resting hresting, logged_warn_of_resting hresting,
      length_stored_of_resting hresting, length_signings_of_resting hresting]
    exact ⟨rfl, rfl, rfl, rfl, Answer.countP_not_isCached _⟩
  · rintro pre i post token rfl h
    exact step_of_cached h
  · rintro pre i post rfl
    obtain ⟨new, hseen, hnew⟩ := seen_step p (run p (asking start nows) pre) i
    rw [run_append_singleton]
    refine ⟨new, hseen, fun hne => ?_⟩
    obtain ⟨answer, hanswer, hreport⟩ := hnew hne
    obtain ⟨hothers, hfree⟩ := free_of_reporting hanswer
    refine ⟨answer, hanswer, ?_, hothers, hfree, ?_⟩
    · rw [hreport, List.map_map]
      exact List.map_id _
    rintro t rfl
    have hstored := mem_stored_of_stored? p (List.mem_of_getElem? hanswer) (t := t) rfl
    have hslot : (run p (asking start nows) pre).state.slot.isSome := by
      rw [slot_run, Option.isSome_or, List.getLast?_isSome.2 (List.ne_nil_of_mem hstored)]
      rfl
    refine ⟨hstored, hslot, fun e he => ?_⟩
    rw [hreport, List.mem_map] at he
    obtain ⟨emission, -, rfl⟩ := he
    exact hslot

/-- Both callers have found nothing; the first one has minted and given back the exclusive lock, and
the second one has it. -/
def overtaken : List Nat := [0, 0, 1, 1, 0, 0, 0, 0, 0, 1]

/-- A success that is counted need not be heard of, and when it is emitted another call may have the
exclusive lock, so that it cannot be had. -/
theorem unheard_and_overtaken :
    ((∀ call ∈ (run Provider.numbering (asking ⟨none, {}⟩ [epoch]) (roundRobin 1)).calls,
        call.isResting)
      ∧ (run Provider.numbering (asking ⟨none, {}⟩ [epoch]) (roundRobin 1)).mintTotal .success = 1
      ∧ (run Provider.numbering (asking ⟨none, {}⟩ [epoch]) (roundRobin 1)).receipts .silent = [])
    ∧ (run Provider.numbering (asking ⟨none, {}⟩ [epoch, epoch]) overtaken).emitted = []
    ∧ (run Provider.numbering (asking ⟨none, {}⟩ [epoch, epoch])
        (overtaken ++ [0])).mintTotal .success = 1
    ∧ (run Provider.numbering (asking ⟨none, {}⟩ [epoch, epoch])
        overtaken).calls[1]?.any Call.isWriting
    ∧ (Call.waiting epoch).mayStep
        (run Provider.numbering (asking ⟨none, {}⟩ [epoch, epoch]) overtaken).calls = false := by
  decide

example : (run Provider.numbering (asking ⟨none, {}⟩ [epoch, epoch]) (roundRobin 2)).mintTotal
    .success = 1 := by decide

end Crowd

end BearerAuth.Token
