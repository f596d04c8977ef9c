import BearerAuth.Proofs.Token.Exclusion
import BearerAuth.Proofs.Token.Serial
import Mathlib.Data.List.Nodup

/-!
# Interleaved calls are linearizable

A call takes effect at one of its steps: where it finds a valid token under the shared lock, or
where it gets the exclusive lock, since from then on nobody else can change what it will do
(`Call.settled?`). Taken one after another in the order of these steps (`linearization`), the calls
answer as they do interleaved, leave the same state and ask the signer for the same
(`linearized_run`, `run_recorded`).
-/

namespace BearerAuth.Token

open Time

variable {σ : Type} (p : Provider σ)

namespace Call

/-- The answer of a call and the state in which it gives back the exclusive lock, as soon as no
other call can change them. -/
def settled? (state : Provider.State σ) : Call → Option (Answer × Provider.State σ)
  | started _ | looking _ | waiting _ => none
  | checking now => some (p.renew now state)
  | signing now =>
    let (answer, signer) := p.mint now state.signer
    some (answer, ⟨Provider.kept state.slot answer, signer⟩)
  | storing answer => some (answer, ⟨Provider.kept state.slot answer, state.signer⟩)
  | leaving answer | reporting answer | returned answer => some (answer, state)

/-- Whether the next step of a call settles its answer. -/
def settles (state : Provider.State σ) : Call → Bool
  | looking now => (Provider.lookup state.slot now).isSome
  | waiting _ => true
  | _ => false

def isReturned : Call → Bool
  | returned _ => true
  | _ => false

theorem isReturned_iff {call : Call} : call.isReturned ↔ ∃ answer, call = .returned answer := by
  cases call <;> simp [isReturned]

theorem settled?_of_settles {state : Provider.State σ} {call : Call} (h : call.settles state) :
    call.settled? p state = none := by
  cases call <;> simp [settles] at h <;> rfl

/-- Without the exclusive lock, the answer of a call does not hang on the state. -/
theorem answer_of_not_writing {call : Call} (h : call.isWriting = false)
    (state state' : Provider.State σ) :
    (call.settled? p state).map Prod.fst = (call.settled? p state').map Prod.fst := by
  cases call with
  | checking _ | signing _ | storing _ | leaving _ => simp [isWriting] at h
  | _ => rfl

theorem state_of_not_writing {call : Call} (h : call.isWriting = false) {state : Provider.State σ}
    {r : Answer × Provider.State σ} (hr : call.settled? p state = some r) : r.2 = state := by
  cases call with
  | checking _ | signing _ | storing _ | leaving _ => simp [isWriting] at h
  | started _ | looking _ | waiting _ => simp [settled?] at hr
  | reporting _ | returned _ =>
    cases hr
    rfl

end Call

namespace Crowd

/-- The step that settles a call does all that the call would do by itself. -/
theorem settled?_advance_of_settles {state : Provider.State σ} {call : Call}
    (h : call.settles state) : ∃ now, call.now? = some now ∧
      (advance p state call).2.1.settled? p (advance p state call).1
        = some (p.token now state) := by
  cases call with
  | looking now =>
    obtain ⟨token, htoken⟩ := Option.isSome_iff_exists.1 h
    refine ⟨now, rfl, ?_⟩
    simp only [advance, Provider.token, htoken, Call.settled?]
  | waiting now =>
    refine ⟨now, rfl, ?_⟩
    simp only [advance, Provider.token_eq_renew, Call.settled?]
  | _ => simp [Call.settles] at h

/-- All other steps of a call leave what is settled as it is. -/
theorem settled?_advance {state : Provider.State σ} {call : Call}
    (h : call.settles state = false) :
    (advance p state call).2.1.settled? p (advance p state call).1 = call.settled? p state := by
  cases call with
  | looking now =>
    simp only [Call.settles, Option.isSome_eq_false_iff, Option.isNone_iff_eq_none] at h
    simp only [advance, h, Call.settled?]
  | waiting now => simp [Call.settles] at h
  | checking now =>
    simp only [advance, Call.settled?, Provider.renew]
    rcases Provider.lookup state.slot now with _ | token <;> rfl
  | _ => rfl

/-- The answer of the call of a given number, as soon as it is settled. -/
def settledAnswer? (c : Crowd σ) (i : Nat) : Option Answer :=
  (c.calls[i]?.bind (·.settled? p c.state)).map Prod.fst

/-- The caller of a given number, if its step settles its answer. -/
def settling (c : Crowd σ) (i : Nat) : List Nat :=
  match c.moving? i with
  | some call => if call.settles c.state then [i] else []
  | none => []

/-- The callers in the order in which their answers are settled. -/
def linearization (c : Crowd σ) : List Nat → List Nat
  | [] => []
  | i :: schedule => c.settling i ++ linearization (step p c i) schedule

/-- The calls of a crowd are, so far, calls one after another: those whose answers are settled have
these answers, and the state is, or will be once the exclusive lock is given back, the one in which
they end. -/
structure Linearized (nows : List Instant) (start : Provider.State σ) (c : Crowd σ)
    (order : List Nat) : Prop where
  exclusive : Exclusive c.calls
  asked : Asked nows c.calls
  nodup : order.Nodup
  mem_iff : ∀ i, i ∈ order ↔ (settledAnswer? p c i).isSome
  answers : (p.tokens (order.filterMap (nows[·]?)) start).1
    = order.filterMap (settledAnswer? p c)
  writing : ∀ (i : Nat) (call : Call), c.calls[i]? = some call → call.isWriting →
    ∃ answer, call.settled? p c.state
      = some (answer, (p.tokens (order.filterMap (nows[·]?)) start).2)
  idle : Idle c.calls → c.state = (p.tokens (order.filterMap (nows[·]?)) start).2

theorem linearized_asking (state : Provider.State σ) (nows : List Instant) :
    Linearized p nows state (asking state nows) [] where
  exclusive := exclusive_asking state nows
  asked := asked_asking state nows
  nodup := List.nodup_nil
  mem_iff i := by
    simp only [settledAnswer?, asking, List.getElem?_map]
    rcases nows[i]? with _ | now <;> simp [Call.settled?]
  answers := rfl
  writing i call hcall hw := by
    obtain ⟨now, -, rfl⟩ := exists_started_of_asking hcall
    simp [Call.isWriting] at hw
  idle _ := rfl

/-- A caller's step leaves the settled answers of the others as they are. -/
theorem settledAnswer?_step_of_ne {c : Crowd σ} (h : Exclusive c.calls) {i j : Nat} (hij : i ≠ j) :
    settledAnswer? p (step p c i) j = settledAnswer? p c j := by
  rcases hm : c.moving? i with _ | call
  · rw [step_of_none p hm]
  simp only [settledAnswer?, calls_step_of_some p hm, hij, if_false]
  rcases hj : c.calls[j]? with _ | other
  · rfl
  simp only [Option.bind_some]
  by_cases hw : call.isWriting
  · exact Call.answer_of_not_writing p
      (h.isWriting_eq_false (moving?_eq_some.1 hm).1 (.inr hw) hj hij) _ _
  · rw [step_of_some p hm, advance_state_of_not_writing p (by simpa using hw)]

theorem settledAnswer?_step_self {c : Crowd σ} {i : Nat} {call : Call}
    (hm : c.moving? i = some call) :
    settledAnswer? p (step p c i) i =
      ((advance p c.state call).2.1.settled? p (advance p c.state call).1).map Prod.fst := by
  simp only [settledAnswer?, calls_step_of_some p hm, if_true, Option.bind_some]
  rw [step_of_some p hm]

/-- When an answer is settled, nobody has the exclusive lock. -/
theorem idle_of_settles {c : Crowd σ} (h : Exclusive c.calls) {i : Nat} {call : Call}
    (hm : c.moving? i = some call) (hs : call.settles c.state) : Idle c.calls := by
  cases call with
  | looking now =>
    obtain ⟨hcall, -⟩ := moving?_eq_some.1 hm
    intro j other hj
    by_cases hij : i = j
    · rw [hij, hj] at hcall
      cases hcall
      rfl
    · exact h.isWriting_eq_false hcall (.inl rfl) hj hij
  | waiting now => exact idle_of_waiting hm
  | _ => simp [Call.settles] at hs

variable {nows : List Instant} {start : Provider.State σ}

/-- A step that settles an answer adds one call to the calls one after another. -/
theorem linearized_step_of_settles {c : Crowd σ} {order : List Nat}
    (h : Linearized p nows start c order) {i : Nat} {call : Call} (hm : c.moving? i = some call)
    (hs : call.settles c.state) : Linearized p nows start (step p c i) (order ++ [i]) := by
  obtain ⟨hcall, -⟩ := moving?_eq_some.1 hm
  have hnone : settledAnswer? p c i = none := by
    simp only [settledAnswer?, hcall, Option.bind_some, Call.settled?_of_settles p hs,
      Option.map_none]
  have hi : i ∉ order := by simp [h.mem_iff, hnone]
  have hidle := idle_of_settles h.exclusive hm hs
  obtain ⟨now, hnow, hsettled⟩ := settled?_advance_of_settles p hs
  have hself : settledAnswer? p (step p c i) i = some (p.token now c.state).1 := by
    rw [settledAnswer?_step_self p hm, hsettled, Option.map_some]
  have hother : ∀ j, j ≠ i → settledAnswer? p (step p c i) j = settledAnswer? p c j :=
    fun j hj => settledAnswer?_step_of_ne p h.exclusive (Ne.symm hj)
  have htokens : p.tokens ((order ++ [i]).filterMap (nows[·]?)) start =
      ((p.tokens (order.filterMap (nows[·]?)) start).1 ++ [(p.token now c.state).1],
        (p.token now c.state).2) := by
    rw [List.filterMap_append, List.filterMap_cons, h.asked i call now hcall hnow,
      List.filterMap_nil, p.tokens_concat, ← h.idle hidle]
  refine ⟨exclusive_step p c i h.exclusive, asked_step p c i h.asked, ?_, fun j => ?_, ?_,
    fun j other hj hw => ?_, fun hnot => ?_⟩
  · rw [List.nodup_append]
    exact ⟨h.nodup, List.nodup_singleton i, fun a ha b hb => by
      rw [List.mem_singleton.1 hb]
      exact fun hab => hi (hab ▸ ha)⟩
  · by_cases hj : j = i
    · simp [hj, hself]
    · simp [hj, hother j hj, h.mem_iff]
  · have hcongr : order.filterMap (settledAnswer? p (step p c i))
        = order.filterMap (settledAnswer? p c) :=
      List.filterMap_congr fun j hj => hother j fun hji => hi (hji ▸ hj)
    rw [htokens, List.filterMap_append, hcongr, ← h.answers]
    simp only [List.filterMap_cons, hself, List.filterMap_nil]
  · rw [calls_step_of_some p hm] at hj
    split_ifs at hj with hij
    · cases hj
      rw [htokens, step_of_some p hm, hsettled]
      exact ⟨_, rfl⟩
    · simp [hidle j other hj] at hw
  · rw [htokens, Call.state_of_not_writing p (isWriting_advance_of_idle p hm hnot) hsettled,
      step_of_some p hm]

theorem linearized_step_of_not_settles {c : Crowd σ} {order : List Nat}
    (h : Linearized p nows start c order) {i : Nat} {call : Call} (hm : c.moving? i = some call)
    (hs : call.settles c.state = false) : Linearized p nows start (step p c i) order := by
  obtain ⟨hcall, -⟩ := moving?_eq_some.1 hm
  have hsettled := settled?_advance p hs
  have hanswer : settledAnswer? p (step p c i) = settledAnswer? p c := by
    funext j
    by_cases hij : i = j
    · subst hij
      rw [settledAnswer?_step_self p hm, hsettled, settledAnswer?, hcall, Option.bind_some]
    · exact settledAnswer?_step_of_ne p h.exclusive hij
  refine ⟨exclusive_step p c i h.exclusive, asked_step p c i h.asked, h.nodup, ?_, ?_,
    fun j other hj hw => ?_, fun hnot => ?_⟩
  · rw [hanswer]
    exact h.mem_iff
  · rw [hanswer]
    exact h.answers
  · rw [calls_step_of_some p hm] at hj
    split_ifs at hj with hij
    · cases hj
      rw [step_of_some p hm, hsettled]
      rcases isWriting_advance p hw with hw | ⟨now, rfl⟩
      · exact h.writing i call hcall hw
      · simp [Call.settles] at hs
    · have hcw := h.exclusive.isWriting_eq_false hj (.inr hw) hcall (Ne.symm hij)
      rw [step_of_some p hm, advance_state_of_not_writing p hcw]
      exact h.writing j other hj hw
  · -- the lock is given back by this step, or was free before it
    rw [step_of_some p hm]
    by_cases hcw : call.isWriting
    · obtain ⟨answer, hanswer⟩ := h.writing i call hcall hcw
      rw [hanswer] at hsettled
      exact (Call.state_of_not_writing p (isWriting_advance_of_idle p hm hnot) hsettled).symm
    · simp only [Bool.not_eq_true] at hcw
      rw [advance_state_of_not_writing p hcw]
      exact h.idle (idle_of_idle_step p hm hcw hnot)

theorem linearized_step {c : Crowd σ} {order : List Nat} (h : Linearized p nows start c order)
    (i : Nat) : Linearized p nows start (step p c i) (order ++ c.settling i) := by
  rcases hm : c.moving? i with _ | call
  · simpa only [settling, hm, List.append_nil, step_of_none p hm] using h
  by_cases hs : call.settles c.state
  · simpa only [settling, hm, hs, if_true] using linearized_step_of_settles p h hm hs
  · simp only [Bool.not_eq_true] at hs
    simpa only [settling, hm, hs, Bool.false_eq_true, if_false, List.append_nil]
      using linearized_step_of_not_settles p h hm hs

theorem linearized_run : ∀ (schedule : List Nat) {c : Crowd σ} {order : List Nat},
    Linearized p nows start c order →
      Linearized p nows start (run p c schedule) (order ++ linearization p c schedule)
  | [], c, order, h => by
    rw [linearization, List.append_nil]
    exact h
  | i :: schedule, c, order, h => by
    have := linearized_run schedule (linearized_step p h i)
    rwa [List.append_assoc] at this

theorem linearization_append (c : Crowd σ) : ∀ (pre : List Nat) {post : List Nat},
    linearization p c (pre ++ post) = linearization p c pre ++ linearization p (run p c pre) post
  | [], _ => rfl
  | i :: pre, post => by
    simp only [List.cons_append, linearization, linearization_append (step p c i) pre,
      List.append_assoc, run, List.foldl_cons]

def recorded (c : Crowd σ) : Crowd (σ × List SigningCall) :=
  ⟨c.state.recorded, c.calls, c.seen⟩

def unrecorded (c : Crowd (σ × List SigningCall)) : Crowd σ :=
  ⟨c.state.unrecorded, c.calls, c.seen⟩

/-- What the signer is asked and answers in a run. -/
def signings (c : Crowd σ) (schedule : List Nat) : List SigningCall :=
  (run p.recorded c.recorded schedule).state.signer.2

theorem advance_recorded (state : Provider.State (σ × List SigningCall)) (call : Call) :
    advance p state.unrecorded call =
      ((advance p.recorded state call).1.unrecorded, (advance p.recorded state call).2) := by
  cases call with
  | looking now | checking now =>
    have hslot : state.unrecorded.slot = state.slot := rfl
    simp only [advance, hslot]
    split <;> rfl
  | signing now =>
    have hmint := p.mint_recorded now state.signer
    have hsigner : state.unrecorded.signer = state.signer.1 := rfl
    simp only [advance, hsigner, hmint]
    rfl
  | reporting answer => cases answer <;> rfl
  | _ => rfl

theorem step_recorded (c : Crowd (σ × List SigningCall)) (i : Nat) :
    step p c.unrecorded i = (step p.recorded c i).unrecorded := by
  have hmoving : c.unrecorded.moving? i = c.moving? i := rfl
  rcases hm : c.moving? i with _ | call
  · rw [step_of_none p (hmoving.trans hm), step_of_none p.recorded hm]
  · have hadvance := advance_recorded p c.state call
    rw [step_of_some p (hmoving.trans hm), step_of_some p.recorded hm]
    simp only [unrecorded, hadvance]
    rfl

/-- The record changes nothing in a run. -/
theorem run_recorded : ∀ (schedule : List Nat) (c : Crowd (σ × List SigningCall)),
    run p c.unrecorded schedule = (run p.recorded c schedule).unrecorded
  | [], _ => rfl
  | i :: schedule, c => by
    have := run_recorded schedule (step p.recorded c i)
    rwa [← step_recorded] at this

theorem linearization_recorded : ∀ (schedule : List Nat) (c : Crowd (σ × List SigningCall)),
    linearization p c.unrecorded schedule = linearization p.recorded c schedule
  | [], _ => rfl
  | i :: schedule, c => by
    have hsettling : c.unrecorded.settling i = c.settling i := rfl
    rw [linearization, linearization, hsettling, step_recorded, linearization_recorded schedule]

def answer? (c : Crowd σ) (i : Nat) : Option Answer :=
  match c.calls[i]? with
  | some (.returned answer) => some answer
  | _ => none

def Done (c : Crowd σ) : Prop :=
  ∀ call ∈ c.calls, call.isReturned

instance (c : Crowd σ) : Decidable c.Done :=
  inferInstanceAs (Decidable (∀ call ∈ c.calls, call.isReturned))

theorem settledAnswer?_of_done {c : Crowd σ} (h : c.Done) : settledAnswer? p c = c.answer? := by
  funext i
  simp only [settledAnswer?, answer?]
  rcases hi : c.calls[i]? with _ | call
  · rfl
  · obtain ⟨answer, rfl⟩ := Call.isReturned_iff.1 (h call (List.mem_of_getElem? hi))
    rfl

theorem length_calls_run (c : Crowd σ) (schedule : List Nat) :
    (run p c schedule).calls.length = c.calls.length := by
  refine run_induction p (P := fun d => d.calls.length = c.calls.length) (fun d i h => ?_)
    schedule rfl
  rcases hm : d.moving? i with _ | call
  · rwa [step_of_none p hm]
  · rwa [step_of_some p hm, List.length_set]

theorem exists_answer?_of_done {c : Crowd σ} (h : c.Done) {i : Nat} (hi : i < c.calls.length) :
    ∃ answer, c.answer? i = some answer := by
  obtain ⟨answer, hanswer⟩ := Call.isReturned_iff.1 (h c.calls[i] (List.getElem_mem hi))
  exact ⟨answer, by simp only [answer?, List.getElem?_eq_getElem hi, hanswer]⟩

/-- A run that is done has linearized every call. -/
theorem perm_linearization_of_done {schedule : List Nat}
    (hdone : (run p (asking start nows) schedule).Done) :
    (linearization p (asking start nows) schedule).Perm (List.range nows.length) := by
  have h := linearized_run p schedule (linearized_asking p start nows)
  rw [List.nil_append] at h
  have hlength : (run p (asking start nows) schedule).calls.length = nows.length := by
    simp only [length_calls_run, asking, List.length_map]
  refine (List.perm_ext_iff_of_nodup h.nodup List.nodup_range).2 fun i => ?_
  rw [h.mem_iff, settledAnswer?_of_done p hdone, List.mem_range, ← hlength]
  constructor
  · intro hi
    by_contra hge
    simp [answer?, List.getElem?_eq_none (Nat.not_lt.1 hge)] at hi
  · intro hi
    obtain ⟨answer, hanswer⟩ := exists_answer?_of_done hdone hi
    simp [hanswer]

/-- A call that has returned comes before one that has done nothing yet. -/
theorem sublist_linearization {pre post : List Nat} {i j : Nat} {answer : Answer} {now : Instant}
    (hi : (run p (asking start nows) pre).calls[i]? = some (.returned answer))
    (hj : (run p (asking start nows) pre).calls[j]? = some (.started now))
    (hmem : j ∈ linearization p (asking start nows) (pre ++ post)) :
    [i, j].Sublist (linearization p (asking start nows) (pre ++ post)) := by
  have h := linearized_run p pre (linearized_asking p start nows)
  rw [List.nil_append] at h
  have hi' : i ∈ linearization p (asking start nows) pre := by
    rw [h.mem_iff]
    simp [settledAnswer?, hi, Call.settled?]
  have hj' : j ∉ linearization p (asking start nows) pre := by
    rw [h.mem_iff]
    simp [settledAnswer?, hj, Call.settled?]
  rw [linearization_append] at hmem ⊢
  have hlater := (List.mem_append.1 hmem).resolve_left hj'
  exact (List.singleton_sublist.2 hi').append (List.singleton_sublist.2 hlater)

theorem filterMap_getElem?_replicate {now : Instant} {n : Nat} : ∀ {order : List Nat},
    (∀ i ∈ order, i < n) →
      order.filterMap ((List.replicate n now)[·]?) = List.replicate order.length now
  | [], _ => rfl
  | i :: order, h => by
    have hi : (List.replicate n now)[i]? = some now :=
      List.getElem?_replicate_of_lt (h i List.mem_cons_self)
    rw [List.filterMap_cons, hi, List.length_cons, List.replicate_succ,
      filterMap_getElem?_replicate fun j hj => h j (List.mem_cons_of_mem i hj)]

theorem tokens_linearization_of_done {schedule : List Nat}
    (hdone : (run p (asking start nows) schedule).Done) :
    p.tokens ((linearization p (asking start nows) schedule).filterMap (nows[·]?)) start =
      ((linearization p (asking start nows) schedule).filterMap
          (run p (asking start nows) schedule).answer?,
        (run p (asking start nows) schedule).state) := by
  have h := linearized_run p schedule (linearized_asking p start nows)
  rw [List.nil_append] at h
  have hidle : Idle (run p (asking start nows) schedule).calls := by
    intro i call hi
    obtain ⟨answer, rfl⟩ := Call.isReturned_iff.1 (hdone call (List.mem_of_getElem? hi))
    rfl
  rw [h.idle hidle, ← settledAnswer?_of_done p hdone, ← h.answers]

theorem signings_of_done {schedule : List Nat}
    (hdone : (run p (asking start nows) schedule).Done) :
    signings p (asking start nows) schedule =
      p.signings ((linearization p (asking start nows) schedule).filterMap (nows[·]?)) start := by
  have hrun := run_recorded p schedule (asking start nows).recorded
  have hdone' : (run p.recorded (asking start.recorded nows) schedule).Done := by
    intro call hcall
    exact hdone call (by rwa [show asking start nows = (asking start nows).recorded.unrecorded
      from rfl, hrun])
  have htokens := tokens_linearization_of_done p.recorded hdone'
  have hlin := linearization_recorded p schedule (asking start nows).recorded
  rw [show asking start.recorded nows = (asking start nows).recorded from rfl, ← hlin] at htokens
  exact (congrArg (fun r => r.2.signer.2) htokens).symm

/-- If all ask at one instant, while no valid token is kept, the first to have the exclusive lock
mints for all. -/
theorem one_mint_of_done {schedule : List Nat} {now expiresAt : Instant}
    (hdone : (run p (asking start nows) schedule).Done) (hne : nows ≠ [])
    (hnow : ∀ t ∈ nows, t = now) (httl : 0 < p.ttl.nanos)
    (hslot : Provider.lookup start.slot now = none)
    (hsigner : ∀ input, ∃ signature, (p.signer.sign input start.signer).1 = .ok signature)
    (hexpiry : now.add? p.ttl = some expiresAt) :
    (signings p (asking start nows) schedule).length = 1
      ∧ ∃ token, ∀ i < nows.length, ∃ answer,
        (run p (asking start nows) schedule).answer? i = some answer
          ∧ answer.token? = some token := by
  obtain ⟨n, rfl⟩ : ∃ n, nows = List.replicate (n + 1) now := by
    obtain ⟨n, hn⟩ := Nat.exists_eq_succ_of_ne_zero (mt List.length_eq_zero_iff.1 hne)
    refine ⟨n, ?_⟩
    rw [← Nat.succ_eq_add_one, ← hn]
    exact List.eq_replicate_of_mem hnow
  obtain ⟨c, signer, call, hrecorded, hc⟩ := p.exists_mint_recorded_minted hsigner hexpiry
  have hmint : p.mint now start.signer = (.minted c, signer) := by
    have := p.mint_recorded now (start.signer, [])
    rwa [hrecorded] at this
  have hvalid : now.nanos < c.expiresAt.nanos := by
    rw [hc, Instant.nanos_of_add? hexpiry]
    omega
  have hperm := perm_linearization_of_done p hdone
  rw [List.length_replicate] at hperm
  have hsame : (linearization p (asking start (List.replicate (n + 1) now)) schedule).filterMap
      ((List.replicate (n + 1) now)[·]?) = List.replicate (n + 1) now := by
    rw [filterMap_getElem?_replicate fun i hi => List.mem_range.1 (hperm.mem_iff.1 hi),
      hperm.length_eq, List.length_range]
  constructor
  · have hslot' : Provider.lookup start.recorded.slot now = none := hslot
    rw [signings_of_done p hdone, hsame, Provider.signings,
      p.recorded.tokens_replicate_of_mint hslot' hrecorded hvalid n]
    rfl
  · have htokens := tokens_linearization_of_done p hdone
    rw [hsame, p.tokens_replicate_of_mint hslot hmint hvalid n] at htokens
    have hanswers := (Prod.mk.inj htokens).1
    refine ⟨c.token, fun i hi => ?_⟩
    obtain ⟨answer, hanswer⟩ := exists_answer?_of_done hdone (i := i)
      (by simpa only [length_calls_run, asking, List.length_map] using hi)
    refine ⟨answer, hanswer, ?_⟩
    rw [List.length_replicate] at hi
    have hmem : answer ∈ .minted c :: List.replicate n (.cached c.token) := by
      rw [hanswers]
      exact List.mem_filterMap.2 ⟨i, hperm.mem_iff.2 (List.mem_range.2 hi), hanswer⟩
    rcases List.mem_cons.1 hmem with rfl | hmem
    · rfl
    · rw [List.eq_of_mem_replicate hmem]
      rfl

/-- However callers are interleaved, some order of their calls explains all that is seen of them,
and no call comes before one that had returned when it began: taken one after another in that order,
the calls have the same answers, end in the same state and ask the signer for the same. So if all
ask at one instant, while no valid token is kept, and the signer signs and the expiry is in range,
the signer is called once and all get its token. -/
theorem run_linearizable (state : Provider.State σ) (nows : List Instant) (schedule : List Nat)
    (hdone : (run p (asking state nows) schedule).Done) :
    (∃ order : List Nat, order.Perm (List.range nows.length)
      ∧ (∀ pre post i j answer now, schedule = pre ++ post →
        (run p (asking state nows) pre).calls[i]? = some (.returned answer) →
        (run p (asking state nows) pre).calls[j]? = some (.started now) → [i, j].Sublist order)
      ∧ p.tokens (order.filterMap (nows[·]?)) state =
        (order.filterMap (run p (asking state nows) schedule).answer?,
          (run p (asking state nows) schedule).state)
      ∧ signings p (asking state nows) schedule = p.signings (order.filterMap (nows[·]?)) state)
    ∧ ∀ now expiresAt, nows ≠ [] → (∀ t ∈ nows, t = now) → 0 < p.ttl.nanos →
      (∀ c ∈ state.slot, c.isValidAt now = false) →
      (∀ input, ∃ signature, (p.signer.sign input state.signer).1 = .ok signature) →
      now.add? p.ttl = some expiresAt →
      (signings p (asking state nows) schedule).length = 1
        ∧ ∃ token, ∀ i < nows.length, ∃ answer,
          (run p (asking state nows) schedule).answer? i = some answer
            ∧ answer.token? = some token := by
  refine ⟨⟨linearization p (asking state nows) schedule, perm_linearization_of_done p hdone, ?_,
    tokens_linearization_of_done p hdone, signings_of_done p hdone⟩, ?_⟩
  · rintro pre post i j answer now rfl hi hj
    refine sublist_linearization p hi hj ?_
    rw [(perm_linearization_of_done p hdone).mem_iff, List.mem_range]
    have hlt := (List.getElem?_eq_some_iff.1 hj).1
    simpa only [length_calls_run, asking, List.length_map] using hlt
  · intro now expiresAt hne hnow httl hslot hsigner hexpiry
    refine one_mint_of_done p hdone hne hnow httl ?_ hsigner hexpiry
    refine Provider.lookup_eq_none.2 fun c hc => ?_
    simpa [CachedToken.isValidAt, Instant.isBefore] using hslot c hc

/-- Two callers of whom both find nothing under the shared lock: one mints for both. -/
theorem run_linearizable_two :
    (run Provider.numbering (asking ⟨none, {}⟩ [epoch, epoch]) (roundRobin 2)).Done
      ∧ (signings Provider.numbering (asking ⟨none, {}⟩ [epoch, epoch])
        (roundRobin 2)).length = 1 := by
  have hdone : (run Provider.numbering (asking ⟨none, {}⟩ [epoch, epoch])
    (roundRobin 2)).Done := by decide
  have hexpiry : epoch.add? Provider.numbering.ttl
    = some ⟨1800000000000, 0, by decide, by decide⟩ := by decide
  refine ⟨hdone, ((run_linearizable Provider.numbering _ _ _ hdone).2 epoch _ (by simp) (by simp)
    (by decide) (by simp) (fun input => ?_) hexpiry).1⟩
  exact ⟨_, rfl⟩

/-- A provider whose tokens would outlast the range of dates. -/
def lasting : Provider SigningStation :=
  { Provider.numbering with ttl := .ofParts 4611686018427387904 0 }

/-- Where the expiry is beyond the range of dates, a signer that signs is called by every caller,
and none gets a token. -/
theorem two_signings_of_expiry_out_of_range :
    (run lasting (asking ⟨none, {}⟩ [epoch, epoch]) (roundRobin 2)).Done
      ∧ 0 < lasting.ttl.nanos
      ∧ (∀ input station, station.fault = none →
        ∃ signature, (lasting.signer.sign input station).1 = .ok signature)
      ∧ (signings lasting (asking ⟨none, {}⟩ [epoch, epoch]) (roundRobin 2)).length = 2
      ∧ (run lasting (asking ⟨none, {}⟩ [epoch, epoch]) (roundRobin 2)).answers.map Answer.token?
        = [none, none] := by
  refine ⟨by decide, by decide, fun input station h => ?_, by decide, by decide⟩
  simp [lasting, Provider.numbering, SigningMethod.toSigner, SigningMethod.counter, h]

end Crowd

end BearerAuth.Token
