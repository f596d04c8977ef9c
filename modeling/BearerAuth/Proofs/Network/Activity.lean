import BearerAuth.Network.Activity

/-!
# Dials and lookups seen from their hooks

What is reported to a hook depends on the dials and lookups that took it and on nothing else. So
hooks may be seen otherwise, and tasks numbered otherwise, and a step does the same
(`advance_via`). A hook to which nothing is left to report, and which no task has, gets no more
reports (`advance_of_quiet`).
-/

namespace BearerAuth.Network

variable {η θ κ : Type}

/-- The hook of a dial or a lookup that has not ended. -/
def Operation.hook? : Operation η κ → Option η
  | .dialing hook | .lookingUp hook => hook
  | .resolving _ | .dialed _ | .lookedUp _ | .dropped => none

/-- Whether it is a lookup that has not been polled. -/
def Operation.isResolving : Operation η κ → Bool
  | .resolving _ => true
  | .dialing _ | .lookingUp _ | .dialed _ | .lookedUp _ | .dropped => false

/-- The operation with its hook seen otherwise. -/
def Operation.via (g : η → Option θ) : Operation η κ → Operation θ κ
  | .dialing hook => .dialing (hook.bind g)
  | .resolving host => .resolving host
  | .lookingUp hook => .lookingUp (hook.bind g)
  | .dialed result => .dialed result
  | .lookedUp result => .lookedUp result
  | .dropped => .dropped

namespace ActivityStep

/-- The step with its task numbered otherwise. -/
def onTask (f : Nat → Nat) : ActivityStep κ → ActivityStep κ
  | dial task => dial (f task)
  | resolve host => resolve host
  | poll i task => poll i (f task)
  | lookUp task host => lookUp (f task) host
  | dialEnds i result => dialEnds i result
  | lookupEnds i result => lookupEnds i result
  | drop i => drop i

/-- Whether an operation begins. -/
def begins : ActivityStep κ → Bool
  | dial _ | resolve _ | lookUp .. => true
  | poll .. | dialEnds .. | lookupEnds .. | drop _ => false

/-- The task whose hook an operation takes. -/
def task? : ActivityStep κ → Option Nat
  | dial task | poll _ task | lookUp task _ => some task
  | resolve _ | dialEnds .. | lookupEnds .. | drop _ => none

/-- The number of the operation that a step is about; one that begins gets the next number. -/
def subject (count : Nat) : ActivityStep κ → Nat
  | dial _ | resolve _ | lookUp .. => count
  | poll i _ | dialEnds i _ | lookupEnds i _ | drop i => i

end ActivityStep

/-- The reports whose hooks are seen otherwise. -/
def reportsVia (g : η → Option θ) (reports : List (η × Milestone)) : List (θ × Milestone) :=
  reports.filterMap fun (hook, m) => (g hook).map (·, m)

theorem reportsVia_reportTo (g : η → Option θ) (hook : Option η) (m : Milestone) :
    reportsVia g (reportTo hook m) = reportTo (hook.bind g) m := by
  rcases hook with _ | h
  · rfl
  · rcases hg : g h with _ | h' <;> simp [reportsVia, reportTo, hg]

/-- What a step does does not depend on how hooks and tasks are seen. -/
theorem advance_via {bound : Nat → Option η} {bound' : Nat → Option θ} {g : η → Option θ}
    {f : Nat → Nat} (h : ∀ task, bound' (f task) = (bound task).bind g)
    (operations : List (Operation η κ)) (x : ActivityStep κ) :
    advance bound' (operations.map (.via g)) (x.onTask f)
      = ((advance bound operations x).1.map (.via g),
        reportsVia g (advance bound operations x).2) := by
  cases x with
  | dial task | lookUp task host =>
    simp only [advance, ActivityStep.onTask, h, reportsVia_reportTo, List.map_append,
      List.map_singleton, Operation.via]
  | resolve host =>
    simp only [advance, ActivityStep.onTask, List.map_append, List.map_singleton, Operation.via]
    rfl
  | poll i task | dialEnds i result | lookupEnds i result | drop i =>
    simp only [advance, ActivityStep.onTask, List.getElem?_map]
    rcases operations[i]? with _ | o
    · rfl
    · cases o <;> simp [Operation.via, List.map_set, reportsVia_reportTo, h] <;> rfl

/-- What a step may report: to the hook that its operation has, or to the one that it takes. -/
theorem eq_some_of_mem_reportTo {hook : Option η} {m : Milestone} {report : η × Milestone}
    (h : report ∈ reportTo hook m) : hook = some report.1 := by
  obtain ⟨_, hhook, rfl⟩ := List.mem_map.1 h
  exact Option.mem_toList.1 hhook

/-- A step begins an operation, which takes the hook of its task if there is one, or changes an
operation, which takes the hook of a task if it has not been polled and has none otherwise, or does
nothing. Only what has such a hook is reported, and to this hook. -/
theorem advance_cases (bound : Nat → Option η) (operations : List (Operation η κ))
    (x : ActivityStep κ) :
    (∃ o reports, x.begins = true ∧ x.subject operations.length = operations.length
        ∧ o.hook? = x.task?.bind bound ∧ o.isResolving = x.task?.isNone
        ∧ (∀ report ∈ reports, o.hook? = some report.1)
        ∧ advance bound operations x = (operations ++ [o], reports))
      ∨ (∃ i o o' reports, x.begins = false ∧ x.subject operations.length = i
        ∧ operations[i]? = some o ∧ (x.task?.isSome → o.isResolving)
        ∧ o'.hook? = x.task?.bind bound ∧ o'.isResolving = false
        ∧ (∀ report ∈ reports, o.hook? = some report.1 ∨ o'.hook? = some report.1)
        ∧ advance bound operations x = (operations.set i o', reports))
      ∨ x.begins = false
        ∧ (x.task?.isSome → ∀ o, operations[x.subject operations.length]? = some o →
          o.isResolving = false)
        ∧ advance bound operations x = (operations, []) := by
  cases x with
  | dial task =>
    exact .inl ⟨.dialing (bound task), _, rfl, rfl, rfl, rfl,
      fun _ => eq_some_of_mem_reportTo, rfl⟩
  | lookUp task host =>
    exact .inl ⟨.lookingUp (bound task), _, rfl, rfl, rfl, rfl,
      fun _ => eq_some_of_mem_reportTo, rfl⟩
  | resolve host =>
    exact .inl ⟨.resolving host, [], rfl, rfl, rfl, rfl, by simp, rfl⟩
  | poll i task =>
    simp only [advance]
    split
    · rename_i host hi
      exact .inr (.inl ⟨i, _, .lookingUp (bound task), _, rfl, rfl, hi, fun _ => rfl, rfl, rfl,
        fun _ hmem => .inr (eq_some_of_mem_reportTo hmem), rfl⟩)
    · rename_i hnot
      refine .inr (.inr ⟨rfl, fun _ o ho => ?_, rfl⟩)
      cases o with
      | resolving host => exact absurd ho (hnot host)
      | _ => rfl
  | dialEnds i result =>
    simp only [advance]
    split
    · rename_i hook hi
      exact .inr (.inl ⟨i, _, .dialed result, _, rfl, rfl, hi, nofun, rfl, rfl,
        fun _ hmem => .inl (eq_some_of_mem_reportTo hmem), rfl⟩)
    · exact .inr (.inr ⟨rfl, nofun, rfl⟩)
  | lookupEnds i result =>
    simp only [advance]
    split
    · rename_i hook hi
      exact .inr (.inl ⟨i, _, .lookedUp result, _, rfl, rfl, hi, nofun, rfl, rfl,
        fun _ hmem => .inl (eq_some_of_mem_reportTo hmem), rfl⟩)
    · exact .inr (.inr ⟨rfl, nofun, rfl⟩)
  | drop i =>
    simp only [advance]
    split
    · exact .inr (.inl ⟨i, _, .dropped, [], rfl, rfl, ‹_›, nofun, rfl, rfl, by simp, rfl⟩)
    · exact .inr (.inl ⟨i, _, .dropped, [], rfl, rfl, ‹_›, nofun, rfl, rfl, by simp, rfl⟩)
    · exact .inr (.inl ⟨i, _, .dropped, [], rfl, rfl, ‹_›, nofun, rfl, rfl, by simp, rfl⟩)
    · exact .inr (.inr ⟨rfl, nofun, rfl⟩)

theorem activity_append_singleton (bound : Nat → Option η) (operations : List (Operation η κ))
    (xs : List (ActivityStep κ)) (x : ActivityStep κ) :
    activity bound operations (xs ++ [x]) =
      ((advance bound (activity bound operations xs).1 x).1,
        (activity bound operations xs).2
          ++ (advance bound (activity bound operations xs).1 x).2) := by
  simp only [activity_append, activity, List.append_nil]

/-- If a hook is bound to no task, and no dial or lookup that has not ended has it, then no step
reports to it. -/
theorem advance_of_quiet {bound : Nat → Option η} {operations : List (Operation η κ)} {hook : η}
    (hbound : ∀ task, bound task ≠ some hook) (hquiet : ∀ o ∈ operations, o.hook? ≠ some hook)
    (x : ActivityStep κ) :
    (∀ report ∈ (advance bound operations x).2, report.1 ≠ hook)
      ∧ ∀ o ∈ (advance bound operations x).1, o.hook? ≠ some hook := by
  have htask : x.task?.bind bound ≠ some hook := by
    intro h
    obtain ⟨task, -, htask⟩ := Option.bind_eq_some_iff.1 h
    exact hbound task htask
  rcases advance_cases bound operations x with
    ⟨o, reports, -, -, ho, -, hreports, heq⟩
    | ⟨i, o, o', reports, -, -, hi, -, ho', -, hreports, heq⟩ | ⟨-, -, heq⟩ <;>
    rw [heq]
  · refine ⟨fun report hmem => ?_, fun o' hmem => ?_⟩
    · rintro rfl
      exact htask (ho ▸ hreports report hmem)
    · rcases List.mem_append.1 hmem with hmem | hmem
      · exact hquiet o' hmem
      · rw [List.mem_singleton.1 hmem, ho]
        exact htask
  · refine ⟨fun report hmem => ?_, fun o'' hmem => ?_⟩
    · rintro rfl
      rcases hreports report hmem with h | h
      · exact hquiet o (List.mem_of_getElem? hi) h
      · exact htask (ho' ▸ h)
    · rcases List.mem_or_eq_of_mem_set hmem with hmem | rfl
      · exact hquiet o'' hmem
      · rw [ho']
        exact htask
  · exact ⟨by simp, hquiet⟩

end BearerAuth.Network
