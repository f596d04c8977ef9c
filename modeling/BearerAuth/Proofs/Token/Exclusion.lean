import BearerAuth.Token.Interleaving
import Mathlib.Data.List.Basic

/-!
# What the locks exclude

While a call has the exclusive lock, no other call has either lock (`exclusive_step`). So a call
that reads the kept token, or that replaces it, finds it as the last call left it that had the
exclusive lock: a step of a call without that lock leaves the state alone
(`advance_state_of_not_writing`).
-/

namespace BearerAuth.Token

open Time

variable {σ : Type}

namespace Call

/-- The instant for which a call asks, while it has no answer. -/
def now? : Call → Option Instant
  | started now | looking now | waiting now | checking now | signing now => some now
  | storing _ | leaving _ | reporting _ | returned _ => none

theorem not_isWriting_of_mayStep_started {calls : List Call} {now : Instant}
    (h : (started now).mayStep calls) : ∀ call ∈ calls, call.isWriting = false := by
  simpa [mayStep] using h

theorem not_holding_of_mayStep_waiting {calls : List Call} {now : Instant}
    (h : (waiting now).mayStep calls) :
    ∀ call ∈ calls, call.isReading = false ∧ call.isWriting = false := by
  simpa [mayStep] using h

end Call

namespace Crowd

variable (p : Provider σ)

theorem moving?_eq_some {c : Crowd σ} {i : Nat} {call : Call} :
    c.moving? i = some call ↔ c.calls[i]? = some call ∧ call.mayStep c.calls = true := by
  simp only [moving?, Option.filter_eq_some_iff]

theorem step_of_none {c : Crowd σ} {i : Nat} (h : c.moving? i = none) : step p c i = c := by
  simp only [step, h]

theorem step_of_some {c : Crowd σ} {i : Nat} {call : Call} (h : c.moving? i = some call) :
    step p c i = ⟨(advance p c.state call).1, c.calls.set i (advance p c.state call).2.1,
      c.seen ++ (advance p c.state call).2.2.map
        fun e => (e, (advance p c.state call).1.slot.isSome)⟩ := by
  simp only [step, h]

theorem calls_step_of_some {c : Crowd σ} {i : Nat} {call : Call} (h : c.moving? i = some call)
    (j : Nat) : (step p c i).calls[j]? =
      if i = j then some (advance p c.state call).2.1 else c.calls[j]? := by
  have hi := (List.getElem?_eq_some_iff.1 (moving?_eq_some.1 h).1).1
  rw [step_of_some p h, List.getElem?_set]
  simp only [hi, if_true]

theorem run_append (c : Crowd σ) (pre post : List Nat) :
    run p c (pre ++ post) = run p (run p c pre) post :=
  List.foldl_append

/-- What every step keeps, every run keeps. -/
theorem run_induction {P : Crowd σ → Prop} (hstep : ∀ c i, P c → P (step p c i)) :
    ∀ (schedule : List Nat) {c : Crowd σ}, P c → P (run p c schedule)
  | [], _, h => h
  | i :: schedule, c, h => run_induction hstep schedule (hstep c i h)

theorem advance_state_of_not_writing {state : Provider.State σ} {call : Call}
    (h : call.isWriting = false) : (advance p state call).1 = state := by
  cases call with
  | looking now =>
    simp only [advance]
    split <;> rfl
  | checking _ | signing _ | storing _ | leaving _ => simp [Call.isWriting] at h
  | _ => rfl

theorem isReading_advance {state : Provider.State σ} {call : Call}
    (h : (advance p state call).2.1.isReading) : ∃ now, call = .started now := by
  cases call with
  | started now => exact ⟨now, rfl⟩
  | looking now | checking now =>
    simp only [advance] at h
    split at h <;> simp [Call.isReading] at h
  | _ => simp [advance, Call.isReading] at h

theorem isWriting_advance {state : Provider.State σ} {call : Call}
    (h : (advance p state call).2.1.isWriting) : call.isWriting ∨ ∃ now, call = .waiting now := by
  cases call with
  | waiting now => exact .inr ⟨now, rfl⟩
  | checking _ | signing _ | storing _ | leaving _ => exact .inl rfl
  | looking now =>
    simp only [advance] at h
    split at h <;> simp [Call.isWriting] at h
  | _ => simp [advance, Call.isWriting] at h

theorem now?_advance {state : Provider.State σ} {call : Call} {now : Instant}
    (h : (advance p state call).2.1.now? = some now) : call.now? = some now := by
  cases call with
  | looking _ | checking _ =>
    simp only [advance] at h
    split at h <;> simp_all [Call.now?]
  | started _ | waiting _ => exact h
  | _ => simp [advance, Call.now?] at h

/-- While a call has the exclusive lock, no other call has either lock. -/
def Exclusive (calls : List Call) : Prop :=
  ∀ (i j : Nat) (a b : Call), calls[i]? = some a → calls[j]? = some b → a.isWriting →
    (b.isReading ∨ b.isWriting) → i = j

theorem Exclusive.isWriting_eq_false {calls : List Call} (h : Exclusive calls) {i j : Nat}
    {a b : Call} (hi : calls[i]? = some a) (ha : a.isReading ∨ a.isWriting)
    (hj : calls[j]? = some b) (hij : i ≠ j) : b.isWriting = false := by
  by_contra hb
  exact hij (h j i b a hj hi (by simpa using hb) ha).symm

/-- Nobody has the exclusive lock. -/
def Idle (calls : List Call) : Prop :=
  ∀ (i : Nat) (call : Call), calls[i]? = some call → call.isWriting = false

/-- A call is let into the exclusive lock only when nobody has it. -/
theorem idle_of_waiting {c : Crowd σ} {i : Nat} {now : Instant}
    (hm : c.moving? i = some (.waiting now)) : Idle c.calls := by
  obtain ⟨-, hmay⟩ := moving?_eq_some.1 hm
  intro j call hj
  exact (Call.not_holding_of_mayStep_waiting hmay call (List.mem_of_getElem? hj)).2

theorem isWriting_advance_of_idle {c : Crowd σ} {i : Nat} {call : Call}
    (hm : c.moving? i = some call) (h : Idle (step p c i).calls) :
    (advance p c.state call).2.1.isWriting = false :=
  h i _ (by rw [calls_step_of_some p hm, if_pos rfl])

/-- A step of a call without the exclusive lock does not give it back. -/
theorem idle_of_idle_step {c : Crowd σ} {i : Nat} {call : Call} (hm : c.moving? i = some call)
    (hcall : call.isWriting = false) (h : Idle (step p c i).calls) : Idle c.calls := by
  intro j other hj
  by_cases hij : i = j
  · rw [← hij, (moving?_eq_some.1 hm).1] at hj
    cases hj
    exact hcall
  · exact h j other (by rw [calls_step_of_some p hm, if_neg hij, hj])

/-- A call that comes to have a lock has had it before, or was let in while no other call stood
in its way. -/
theorem exclusive_step (c : Crowd σ) (i : Nat) (h : Exclusive c.calls) :
    Exclusive (step p c i).calls := by
  rcases hm : c.moving? i with _ | call
  · rwa [step_of_none p hm]
  obtain ⟨hcall, hmay⟩ := moving?_eq_some.1 hm
  intro j k a b hj hk ha hb
  rw [calls_step_of_some p hm] at hj hk
  split_ifs at hj hk with hij hik hik
  · rw [← hij, ← hik]
  · cases hj
    rcases isWriting_advance p ha with hw | ⟨now, rfl⟩
    · exact absurd (h i k _ _ hcall hk hw hb) hik
    · obtain ⟨hr, hw⟩ := Call.not_holding_of_mayStep_waiting hmay b (List.mem_of_getElem? hk)
      simp [hr, hw] at hb
  · cases hk
    rcases hb with hr | hw
    · obtain ⟨now, rfl⟩ := isReading_advance p hr
      have := Call.not_isWriting_of_mayStep_started hmay a (List.mem_of_getElem? hj)
      simp [this] at ha
    · rcases isWriting_advance p hw with hw | ⟨now, rfl⟩
      · exact absurd (h j i _ _ hj hcall ha (.inr hw)).symm hij
      · simp [idle_of_waiting hm j a hj] at ha
  · exact h j k a b hj hk ha hb

theorem exists_started_of_asking {state : Provider.State σ} {nows : List Instant} {i : Nat}
    {call : Call} (hi : (asking state nows).calls[i]? = some call) :
    ∃ now, nows[i]? = some now ∧ call = .started now := by
  simp only [asking, List.getElem?_map, Option.map_eq_some_iff] at hi
  obtain ⟨now, hnow, rfl⟩ := hi
  exact ⟨now, hnow, rfl⟩

theorem exclusive_asking (state : Provider.State σ) (nows : List Instant) :
    Exclusive (asking state nows).calls := by
  intro i j a b hi _ ha _
  obtain ⟨now, -, rfl⟩ := exists_started_of_asking hi
  simp [Call.isWriting] at ha

/-- Calls that have no answer ask for the instants they began with. -/
def Asked (nows : List Instant) (calls : List Call) : Prop :=
  ∀ (i : Nat) (call : Call) (now : Instant), calls[i]? = some call → call.now? = some now →
    nows[i]? = some now

theorem asked_step {nows : List Instant} (c : Crowd σ) (i : Nat) (h : Asked nows c.calls) :
    Asked nows (step p c i).calls := by
  rcases hm : c.moving? i with _ | call
  · rwa [step_of_none p hm]
  intro j other now hj hnow
  rw [calls_step_of_some p hm] at hj
  split_ifs at hj with hij
  · subst hij
    cases hj
    exact h i call now (moving?_eq_some.1 hm).1 (now?_advance p hnow)
  · exact h j other now hj hnow

theorem asked_asking (state : Provider.State σ) (nows : List Instant) :
    Asked nows (asking state nows).calls := by
  intro i call now hi hnow
  obtain ⟨now', hstarted, rfl⟩ := exists_started_of_asking hi
  cases hnow
  exact hstarted

end Crowd

end BearerAuth.Token
