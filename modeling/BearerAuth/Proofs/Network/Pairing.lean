import BearerAuth.Proofs.Network.Activity
import Mathlib.Tactic.SplitIfs

/-!
# Starts and ends of dials and lookups

Of the many dials and lookups of a run each one is followed by its number. `Operation.next` is what
a step does to one of them, and `advance_at` says that a step does just that, whatever else goes on:
the hook taken at the beginning is kept until the end. So the whole course of a dial or a lookup is
known from the first step that ends it (`life_dialing`, `life_lookingUp`), and that of a lookup which
is called for from the first step that polls it and the first one that ends it after that
(`life_resolving`).

The reports of a run carry no numbers. `attributed` adds them, and takes nothing away; so each of
them goes to the hook of the task on which its operation was first polled (`Owned.activity`). What a
hook is still owed is counted with the ends that it was told of, against the starts
(`countP_take_le`).
-/

namespace BearerAuth.Network

variable {η κ : Type}

namespace ActivityStep

/-- How a step ends the dial of a given number, unless it does not; `none` inside is a drop. -/
def endsDial? (i : Nat) : ActivityStep κ → Option (Option (Except Cause κ))
  | dialEnds j result => if j = i then some (some result) else none
  | drop j => if j = i then some none else none
  | dial _ | resolve _ | poll .. | lookUp .. | lookupEnds .. => none

/-- How a step ends the lookup of a given number, unless it does not. -/
def endsLookup? (i : Nat) : ActivityStep κ → Option (Option (Except Cause (List Socket)))
  | lookupEnds j result => if j = i then some (some result) else none
  | drop j => if j = i then some none else none
  | dial _ | resolve _ | poll .. | lookUp .. | dialEnds .. => none

/-- On which task a step polls the lookup of a given number, unless it does not; `none` inside is a
drop. -/
def polls? (i : Nat) : ActivityStep κ → Option (Option Nat)
  | poll j task => if j = i then some (some task) else none
  | drop j => if j = i then some none else none
  | dial _ | resolve _ | lookUp .. | dialEnds .. | lookupEnds .. => none

end ActivityStep

/-- The tasks on which operations were first polled, as a step leaves them. -/
def tasksAfter (tasks : List (Option Nat)) (x : ActivityStep κ) : List (Option Nat) :=
  if x.begins then tasks ++ [x.task?] else tasks.modify (x.subject tasks.length) (·.or x.task?)

/-- For each operation, in the order in which they began, the task on which it was first polled. -/
def begun (xs : List (ActivityStep κ)) : List (Option Nat) :=
  xs.foldl tasksAfter []

section

variable (bound : Nat → Option η)

/-- What a step makes of the operation of a given number, and what that reports. -/
def Operation.next (i : Nat) : Operation η κ → ActivityStep κ → Operation η κ × List (η × Milestone)
  | .resolving host, .poll j task =>
    if j = i then (.lookingUp (bound task), reportTo (bound task) (.lookupStart host))
    else (.resolving host, [])
  | .resolving host, .drop j => if j = i then (.dropped, []) else (.resolving host, [])
  | .dialing hook, .dialEnds j result =>
    if j = i then (.dialed result, reportTo hook (.dialDone (failure? result)))
    else (.dialing hook, [])
  | .lookingUp hook, .lookupEnds j result =>
    if j = i then (.lookedUp result, reportTo hook (lookupReport result))
    else (.lookingUp hook, [])
  | .dialing hook, .drop j => if j = i then (.dropped, []) else (.dialing hook, [])
  | .lookingUp hook, .drop j => if j = i then (.dropped, []) else (.lookingUp hook, [])
  | o, _ => (o, [])

/-- What a run makes of the operation of a given number, and what that reports. -/
def Operation.life (i : Nat) (o : Operation η κ) :
    List (ActivityStep κ) → Operation η κ × List (η × Milestone)
  | [] => (o, [])
  | x :: later =>
    (((o.next bound i x).1.life i later).1,
      (o.next bound i x).2 ++ ((o.next bound i x).1.life i later).2)

end

/-- The state of a dial and its reports: it starts at once, and ends as it is ended first. -/
def dialCourse (hook : Option η) :
    Option (Option (Except Cause κ)) → Operation η κ × List (η × Milestone)
  | none => (.dialing hook, reportTo hook .dialStart)
  | some none => (.dropped, reportTo hook .dialStart)
  | some (some (.ok connection)) =>
    (.dialed (.ok connection), reportTo hook .dialStart ++ reportTo hook (.dialDone none))
  | some (some (.error cause)) =>
    (.dialed (.error cause), reportTo hook .dialStart ++ reportTo hook (.dialDone (some cause)))

/-- The state of a lookup and its reports. -/
def lookupCourse (hook : Option η) (host : String) :
    Option (Option (Except Cause (List Socket))) → Operation η κ × List (η × Milestone)
  | none => (.lookingUp hook, reportTo hook (.lookupStart host))
  | some none => (.dropped, reportTo hook (.lookupStart host))
  | some (some (.ok found)) =>
    (.lookedUp (.ok found),
      reportTo hook (.lookupStart host) ++ reportTo hook (.lookupDone found none))
  | some (some (.error cause)) =>
    (.lookedUp (.error cause),
      reportTo hook (.lookupStart host) ++ reportTo hook (.lookupDone [] (some cause)))

/-- The state of a lookup that was called for, and its reports: none until it is polled, and from
then on those to the hook of the task on which it is. -/
def resolveCourse (bound : Nat → Option η) (host : String) (i : Nat) :
    List (ActivityStep κ) → Operation η κ × List (η × Milestone)
  | [] => (.resolving host, [])
  | x :: later =>
    match x.polls? i with
    | none => resolveCourse bound host i later
    | some none => (.dropped, [])
    | some (some task) =>
      lookupCourse (bound task) host (later.findSome? (ActivityStep.endsLookup? i))

/-- The reports of one operation. -/
def reportsOf (i : Nat) (reports : List (Nat × η × Milestone)) : List (η × Milestone) :=
  (reports.filter (·.1 = i)).map (·.2)

theorem reportsOf_append (i : Nat) (rs ts : List (Nat × η × Milestone)) :
    reportsOf i (rs ++ ts) = reportsOf i rs ++ reportsOf i ts := by
  simp [reportsOf]

theorem reportsOf_map (i j : Nat) (rs : List (η × Milestone)) :
    reportsOf i (rs.map (j, ·)) = if j = i then rs else [] := by
  split_ifs with h <;> simp [reportsOf, List.filter_map, Function.comp_def, h]

section

variable (bound : Nat → Option η)

/-- The reports of a run, each with the number of its operation. -/
def attributed (operations : List (Operation η κ)) :
    List (ActivityStep κ) → List (Nat × η × Milestone)
  | [] => []
  | x :: later =>
    (advance bound operations x).2.map (x.subject operations.length, ·)
      ++ attributed (advance bound operations x).1 later

theorem map_snd_attributed (operations : List (Operation η κ)) (xs : List (ActivityStep κ)) :
    (attributed bound operations xs).map (·.2) = (activity bound operations xs).2 := by
  induction xs generalizing operations with
  | nil => rfl
  | cons x xs ih => simp [attributed, activity, ih, Function.comp_def]

theorem attributed_append (operations : List (Operation η κ)) (xs ys : List (ActivityStep κ)) :
    attributed bound operations (xs ++ ys)
      = attributed bound operations xs
        ++ attributed bound (activity bound operations xs).1 ys := by
  induction xs generalizing operations with
  | nil => rfl
  | cons x xs ih => simp only [List.cons_append, attributed, activity, ih, List.append_assoc]

/-! ### One operation -/

/-- A step about another operation is nothing to this one. -/
theorem Operation.next_of_ne {i count : Nat} {x : ActivityStep κ} (hx : x.subject count ≠ i)
    (o : Operation η κ) : o.next bound i x = (o, []) := by
  cases x with
  | dial task | resolve host | lookUp task host => cases o <;> rfl
  | poll j task | dialEnds j result | lookupEnds j result | drop j =>
    cases o <;> first | rfl | exact if_neg hx

theorem getElem?_advance_of_ne {operations : List (Operation η κ)} {i : Nat}
    (hi : i < operations.length) {x : ActivityStep κ} (hx : x.subject operations.length ≠ i) :
    (advance bound operations x).1[i]? = operations[i]? := by
  cases x with
  | dial task | resolve host | lookUp task host => exact List.getElem?_append_left hi
  | poll j task | dialEnds j result | lookupEnds j result | drop j =>
    simp only [advance]
    split <;> first | rfl | exact List.getElem?_set_ne hx

/-- A step does to an operation what is its due, whatever it does to others. -/
theorem advance_at {operations : List (Operation η κ)} {i : Nat} {o : Operation η κ}
    (h : operations[i]? = some o) (x : ActivityStep κ) :
    (advance bound operations x).1[i]? = some (o.next bound i x).1
      ∧ (if x.subject operations.length = i then (advance bound operations x).2 else [])
        = (o.next bound i x).2 := by
  obtain ⟨hi, hget⟩ := List.getElem?_eq_some_iff.1 h
  by_cases hx : x.subject operations.length = i
  · cases x with
    | dial task | resolve host | lookUp task host => exact absurd hx (Nat.ne_of_gt hi)
    | poll j task | dialEnds j result | lookupEnds j result | drop j =>
      obtain rfl : j = i := hx
      simp only [advance, ActivityStep.subject, h, if_true]
      cases o <;> simp [Operation.next, hi, hget]
  · rw [getElem?_advance_of_ne bound hi hx, if_neg hx, Operation.next_of_ne bound hx, h]
    exact ⟨rfl, rfl⟩

/-- So does a run. -/
theorem activity_at {operations : List (Operation η κ)} {i : Nat} {o : Operation η κ}
    (h : operations[i]? = some o) (xs : List (ActivityStep κ)) :
    (activity bound operations xs).1[i]? = some (o.life bound i xs).1
      ∧ reportsOf i (attributed bound operations xs) = (o.life bound i xs).2 := by
  induction xs generalizing operations o with
  | nil => exact ⟨h, rfl⟩
  | cons x xs ih =>
    obtain ⟨hstate, hreports⟩ := advance_at bound h x
    obtain ⟨hlater, hlaterReports⟩ := ih hstate
    refine ⟨hlater, ?_⟩
    rw [attributed, reportsOf_append, reportsOf_map, hreports, hlaterReports]
    rfl

variable {bound}

/-- What no step changes stays as it is. -/
theorem Operation.life_of_next {o : Operation η κ} {i : Nat} (h : ∀ x, o.next bound i x = (o, []))
    (xs : List (ActivityStep κ)) : o.life bound i xs = (o, []) := by
  induction xs with
  | nil => rfl
  | cons x xs ih => rw [Operation.life, h, ih, List.nil_append]

/-- What becomes of an operation is settled by the first step that ends it. -/
theorem Operation.life_of_ends {ρ : Type} {o : Operation η κ} {i : Nat}
    {ends? : ActivityStep κ → Option ρ} {ended : ρ → Operation η κ × List (η × Milestone)}
    (hnext : ∀ x, o.next bound i x = ((ends? x).map ended).getD (o, []))
    (hended : ∀ r x, (ended r).1.next bound i x = ((ended r).1, [])) (xs : List (ActivityStep κ)) :
    o.life bound i xs = ((xs.findSome? ends?).map ended).getD (o, []) := by
  induction xs with
  | nil => rfl
  | cons x xs ih =>
    rw [Operation.life, hnext, List.findSome?_cons]
    rcases ends? x with _ | r
    · simpa using ih
    · simp [Operation.life_of_next (hended r)]

def dialEnded (hook : Option η) :
    Option (Except Cause κ) → Operation η κ × List (η × Milestone)
  | none => (.dropped, [])
  | some result => (.dialed result, reportTo hook (.dialDone (failure? result)))

def lookupEnded (hook : Option η) :
    Option (Except Cause (List Socket)) → Operation η κ × List (η × Milestone)
  | none => (.dropped, [])
  | some result => (.lookedUp result, reportTo hook (lookupReport result))

variable (bound)

theorem life_dialing (hook : Option η) (i : Nat) (xs : List (ActivityStep κ)) :
    (((Operation.dialing hook).life bound i xs).1,
        reportTo hook .dialStart ++ ((Operation.dialing hook).life bound i xs).2)
      = dialCourse hook (xs.findSome? (ActivityStep.endsDial? i)) := by
  have hnext : ∀ x : ActivityStep κ, (Operation.dialing hook).next bound i x
      = ((x.endsDial? i).map (dialEnded hook)).getD (.dialing hook, []) := fun x => by
    cases x with
    | dial task | resolve host | poll j task | lookUp task host | lookupEnds j result => rfl
    | dialEnds j result | drop j =>
      rw [Operation.next, ActivityStep.endsDial?]
      split_ifs <;> rfl
  have hended : ∀ (r : Option (Except Cause κ)) (x : ActivityStep κ),
      (dialEnded hook r).1.next bound i x = ((dialEnded hook r).1, []) := fun r x => by
    cases r <;> rfl
  rw [Operation.life_of_ends hnext hended]
  rcases xs.findSome? (ActivityStep.endsDial? i) with _ | _ | cause | connection <;>
    simp [dialCourse, dialEnded, failure?]

theorem life_lookingUp (hook : Option η) (host : String) (i : Nat) (xs : List (ActivityStep κ)) :
    (((Operation.lookingUp hook).life bound i xs).1,
        reportTo hook (.lookupStart host) ++ ((Operation.lookingUp hook).life bound i xs).2)
      = lookupCourse hook host (xs.findSome? (ActivityStep.endsLookup? i)) := by
  have hnext : ∀ x : ActivityStep κ, (Operation.lookingUp hook).next bound i x
      = ((x.endsLookup? i).map (lookupEnded hook)).getD (.lookingUp hook, []) := fun x => by
    cases x with
    | dial task | resolve host' | poll j task | lookUp task host' | dialEnds j result => rfl
    | lookupEnds j result | drop j =>
      rw [Operation.next, ActivityStep.endsLookup?]
      split_ifs <;> rfl
  have hended : ∀ (r : Option (Except Cause (List Socket))) (x : ActivityStep κ),
      (lookupEnded hook r : Operation η κ × _).1.next bound i x = ((lookupEnded hook r).1, []) :=
    fun r x => by cases r <;> rfl
  rw [Operation.life_of_ends hnext hended]
  rcases xs.findSome? (ActivityStep.endsLookup? i) with _ | _ | cause | found <;>
    simp [lookupCourse, lookupEnded, lookupReport]

/-- A lookup that was called for waits for the step that polls it, and goes on as a lookup from
there. -/
theorem life_resolving (host : String) (i : Nat) (xs : List (ActivityStep κ)) :
    (Operation.resolving host).life bound i xs = resolveCourse bound host i xs := by
  have hdropped : ∀ x : ActivityStep κ, (Operation.dropped : Operation η κ).next bound i x
      = (.dropped, []) := fun _ => rfl
  induction xs with
  | nil => rfl
  | cons x later ih =>
    rw [Operation.life, resolveCourse]
    cases x with
    | dial task | resolve host' | lookUp task host' | dialEnds j result | lookupEnds j result =>
      exact ih
    | poll j task =>
      simp only [Operation.next, ActivityStep.polls?]
      split_ifs with h
      · exact life_lookingUp bound (bound task) host i later
      · exact ih
    | drop j =>
      simp only [Operation.next, ActivityStep.polls?]
      split_ifs with h
      · simp only [Operation.life_of_next hdropped, List.append_nil]
      · exact ih

/-! ### Hooks and their tasks -/

theorem tasksAfter_of_begins {tasks : List (Option Nat)} {x : ActivityStep κ}
    (hx : x.begins = true) : tasksAfter tasks x = tasks ++ [x.task?] :=
  if_pos hx

theorem tasksAfter_of_not_begins {tasks : List (Option Nat)} {x : ActivityStep κ}
    (hx : x.begins = false) :
    tasksAfter tasks x = tasks.modify (x.subject tasks.length) (·.or x.task?) :=
  if_neg (by simp [hx])

/-- A task on which an operation was polled first stays that. -/
theorem getElem?_tasksAfter {tasks : List (Option Nat)} {i task : Nat}
    (h : tasks[i]? = some (some task)) (x : ActivityStep κ) :
    (tasksAfter tasks x)[i]? = some (some task) := by
  unfold tasksAfter
  split_ifs with hx
  · rw [List.getElem?_append_left (List.getElem?_eq_some_iff.1 h).1, h]
  · rw [List.getElem?_modify, h]
    split_ifs <;> rfl

theorem getElem?_foldl_tasksAfter {tasks : List (Option Nat)} {i task : Nat}
    (h : tasks[i]? = some (some task)) (xs : List (ActivityStep κ)) :
    (xs.foldl tasksAfter tasks)[i]? = some (some task) := by
  induction xs generalizing tasks with
  | nil => exact h
  | cons x xs ih => exact ih (getElem?_tasksAfter h x)

/-- What an operation has of the task on which it was first polled: the hook of this task until it
ends, and nothing while there is no such task. -/
structure Operation.IsOf (task? : Option Nat) (o : Operation η κ) : Prop where
  bind_of_hook? : ∀ {hook : η}, o.hook? = some hook → task?.bind bound = some hook
  eq_none : o.isResolving → task? = none

/-- Each operation is of the task on which it was first polled. -/
structure Owned (tasks : List (Option Nat)) (operations : List (Operation η κ)) : Prop where
  length_eq : operations.length = tasks.length
  isOf : ∀ {i : Nat} {o : Operation η κ} {task? : Option Nat}, operations[i]? = some o →
    tasks[i]? = some task? → o.IsOf bound task?

variable {bound}

/-- An operation that has a hook was polled first on a task with this hook. -/
theorem Owned.exists_task {tasks : List (Option Nat)} {operations : List (Operation η κ)}
    (h : Owned bound tasks operations) {i : Nat} {o : Operation η κ} {hook : η}
    (hi : operations[i]? = some o) (hhook : o.hook? = some hook) :
    ∃ task, tasks[i]? = some (some task) ∧ bound task = some hook := by
  have hlt : i < tasks.length := h.length_eq ▸ (List.getElem?_eq_some_iff.1 hi).1
  have htask? : tasks[i]? = some tasks[i] := List.getElem?_eq_getElem hlt
  obtain ⟨task, htask, hbound⟩ :=
    Option.bind_eq_some_iff.1 ((h.isOf hi htask?).bind_of_hook? hhook)
  exact ⟨task, htask ▸ htask?, hbound⟩

theorem Owned.append {tasks : List (Option Nat)} {operations : List (Operation η κ)}
    (h : Owned bound tasks operations) {task? : Option Nat} {o : Operation η κ}
    (ho : o.IsOf bound task?) : Owned bound (tasks ++ [task?]) (operations ++ [o]) where
  length_eq := by simp [h.length_eq]
  isOf := fun {i p t} hp ht => by
    have hlength := h.length_eq
    by_cases hi : i < operations.length
    · rw [List.getElem?_append_left hi] at hp
      rw [List.getElem?_append_left (hlength ▸ hi)] at ht
      exact h.isOf hp ht
    · have hlast : i = operations.length := by grind
      obtain rfl : o = p := by simpa [hlast] using hp
      obtain rfl : task? = t := by simpa [hlast, hlength] using ht
      exact ho

/-- What becomes of one operation, and of the task on which it was first polled, is nothing to the
others. -/
theorem Owned.modify {tasks : List (Option Nat)} {operations operations' : List (Operation η κ)}
    (h : Owned bound tasks operations) {i : Nat} {f : Option Nat → Option Nat}
    (hlength : operations'.length = operations.length)
    (hothers : ∀ j, i ≠ j → operations'[j]? = operations[j]?)
    (hthis : ∀ {o task?}, operations'[i]? = some o → tasks[i]? = some task? →
      o.IsOf bound (f task?)) : Owned bound (tasks.modify i f) operations' where
  length_eq := by rw [hlength, h.length_eq, List.length_modify]
  isOf := fun {j o task?} ho htask? => by
    by_cases hj : i = j
    · subst hj
      rw [List.getElem?_modify_eq] at htask?
      obtain ⟨_, hbefore, rfl⟩ := Option.map_eq_some_iff.1 htask?
      exact hthis ho hbefore
    · rw [hothers j hj] at ho
      rw [List.getElem?_modify_ne _ _ hj] at htask?
      exact h.isOf ho htask?

/-- A step keeps that, and reports to none but the hook of the task on which its operation was first
polled. -/
theorem Owned.advance {tasks : List (Option Nat)} {operations : List (Operation η κ)}
    (h : Owned bound tasks operations) (x : ActivityStep κ) :
    Owned bound (tasksAfter tasks x) (advance bound operations x).1
      ∧ ∀ report ∈ (Network.advance bound operations x).2, ∃ task,
        (tasksAfter tasks x)[x.subject operations.length]? = some (some task)
          ∧ bound task = some report.1 := by
  rcases advance_cases bound operations x with
    ⟨o, reports, hbegins, hsubject, ho, hresolving, hreports, heq⟩
    | ⟨i, o, o', reports, hbegins, hsubject, hi, hpolled, ho', hresolving, hreports, heq⟩
    | ⟨hbegins, hpolled, heq⟩ <;> rw [heq]
  · have hnew : o.IsOf bound x.task? :=
      ⟨fun hhook => ho ▸ hhook, fun hr => Option.isNone_iff_eq_none.1 (hresolving ▸ hr)⟩
    have hafter := h.append hnew
    rw [tasksAfter_of_begins hbegins, hsubject]
    exact ⟨hafter, fun report hmem =>
      hafter.exists_task List.getElem?_concat_length (hreports report hmem)⟩
  · have hi' : (operations.set i o')[i]? = some o' :=
      List.getElem?_set_self (List.getElem?_eq_some_iff.1 hi).1
    have hafter : Owned bound (tasks.modify i (·.or x.task?)) (operations.set i o') := by
      refine h.modify List.length_set (fun j hj => List.getElem?_set_ne hj)
        fun {p task?} hp htask? => ?_
      obtain rfl : o' = p := Option.some.inj (hi'.symm.trans hp)
      refine ⟨fun {hook} hhook => ?_, fun hr => ?_⟩
      · obtain ⟨task, htask, hbound⟩ := Option.bind_eq_some_iff.1 (ho' ▸ hhook)
        rw [(h.isOf hi htask?).eq_none (hpolled (by simp [htask])), htask]
        exact hbound
      · rw [hresolving] at hr
        cases hr
    rw [tasksAfter_of_not_begins hbegins, ← h.length_eq, hsubject]
    refine ⟨hafter, fun report hmem => ?_⟩
    rcases hreports report hmem with hhook | hhook
    · obtain ⟨task, htask, hbound⟩ := h.exists_task hi hhook
      exact ⟨task, by simp [htask], hbound⟩
    · exact hafter.exists_task hi' hhook
  · rw [tasksAfter_of_not_begins hbegins, ← h.length_eq]
    refine ⟨h.modify rfl (fun _ _ => rfl) fun {o task?} ho htask? => ⟨fun {hook} hhook => ?_,
      fun hr => ?_⟩, by simp⟩
    · obtain ⟨task, htask, hbound⟩ :=
        Option.bind_eq_some_iff.1 ((h.isOf ho htask?).bind_of_hook? hhook)
      rw [htask]
      exact hbound
    · have hunpolled : x.task? = none := by
        rw [← Option.not_isSome_iff_eq_none]
        intro hsome
        rw [hpolled hsome o ho] at hr
        cases hr
      rw [(h.isOf ho htask?).eq_none hr, hunpolled]
      rfl

theorem Owned.activity {tasks : List (Option Nat)} {operations : List (Operation η κ)}
    (h : Owned bound tasks operations) (xs : List (ActivityStep κ)) :
    Owned bound (xs.foldl tasksAfter tasks) (activity bound operations xs).1
      ∧ ∀ report ∈ attributed bound operations xs, ∃ task,
        (xs.foldl tasksAfter tasks)[report.1]? = some (some task)
          ∧ bound task = some report.2.1 := by
  induction xs generalizing tasks operations with
  | nil => exact ⟨h, by simp [attributed]⟩
  | cons x xs ih =>
    obtain ⟨hstep, hreports⟩ := h.advance x
    obtain ⟨hrun, hlater⟩ := ih hstep
    refine ⟨hrun, fun report hmem => ?_⟩
    rcases List.mem_append.1 hmem with hmem | hmem
    · obtain ⟨r, hr, rfl⟩ := List.mem_map.1 hmem
      obtain ⟨task, htask, hbound⟩ := hreports r hr
      exact ⟨task, getElem?_foldl_tasksAfter htask xs, hbound⟩
    · exact hlater report hmem

variable (bound) in
theorem owned_run (xs : List (ActivityStep κ)) :
    Owned bound (begun xs) (activity bound ([] : List (Operation η κ)) xs).1
      ∧ ∀ report ∈ attributed bound ([] : List (Operation η κ)) xs, ∃ task,
        (begun xs)[report.1]? = some (some task) ∧ bound task = some report.2.1 :=
  have hnone : Owned bound [] ([] : List (Operation η κ)) :=
    ⟨rfl, fun hi => absurd hi (by simp)⟩
  hnone.activity xs

variable (bound) in
/-- What a run comes to for the operation of a given number: its state and its reports. -/
def course (xs : List (ActivityStep κ)) (i : Nat) :
    Option (Operation η κ × List (η × Milestone)) :=
  (activity bound [] xs).1[i]?.map (·, reportsOf i (attributed bound [] xs))

/-- Of an operation there is no report before the step with which it begins. -/
theorem course_of_begins {x : ActivityStep κ} {o : Operation η κ} {reports : List (η × Milestone)}
    (hx : ∀ operations : List (Operation η κ), x.subject operations.length = operations.length
      ∧ advance bound operations x = (operations ++ [o], reports))
    (before after : List (ActivityStep κ)) :
    course bound (before ++ x :: after) (begun before).length
      = some ((o.life bound (begun before).length after).1,
        reports ++ (o.life bound (begun before).length after).2) := by
  obtain ⟨howned, hreports⟩ := owned_run bound before
  obtain ⟨hsubject, hadvance⟩ := hx (activity bound [] before).1
  have hnew : ((activity bound [] before).1 ++ [o])[(begun before).length]? = some o := by
    rw [← howned.length_eq, List.getElem?_concat_length]
  obtain ⟨hstate, hlater⟩ := activity_at bound hnew after
  have hbefore : reportsOf (begun before).length (attributed bound [] before) = [] := by
    simp only [reportsOf, List.map_eq_nil_iff, List.filter_eq_nil_iff, decide_eq_true_eq]
    rintro report hmem hi
    obtain ⟨task, htask, -⟩ := hreports report hmem
    rw [hi, List.getElem?_eq_none (Nat.le_refl _)] at htask
    cases htask
  have hall : reportsOf (begun before).length (attributed bound [] (before ++ x :: after))
      = reports ++ (o.life bound (begun before).length after).2 := by
    rw [attributed_append, reportsOf_append, hbefore, List.nil_append, attributed, hsubject,
      hadvance, howned.length_eq, reportsOf_append, reportsOf_map, if_pos rfl, hlater]
  rw [course, hall, activity_append, activity, hadvance, hstate, Option.map_some]

end

/-! ### Starts and ends of one hook -/

/-- A step reports once at most. -/
theorem length_advance_le (bound : Nat → Option η) (operations : List (Operation η κ))
    (x : ActivityStep κ) :
    (advance bound operations x).2.length ≤ 1 := by
  have hone : ∀ (hook : Option η) m, (reportTo hook m).length ≤ 1 := fun hook m => by
    cases hook <;> simp [reportTo]
  cases x with
  | dial task | lookUp task host => exact hone _ _
  | resolve host => exact Nat.zero_le 1
  | poll i task | dialEnds i result | lookupEnds i result | drop i =>
    simp only [advance]
    split <;> first | exact hone _ _ | exact Nat.zero_le 1

/-- What a hook is told of. -/
inductive Service
  | dial
  | lookup
  deriving DecidableEq

namespace Service

def starts : Service → Milestone → Bool
  | dial, .dialStart | lookup, .lookupStart _ => true
  | _, _ => false

def ends : Service → Milestone → Bool
  | dial, .dialDone _ | lookup, .lookupDone .. => true
  | _, _ => false

variable [DecidableEq η]

/-- An operation that a hook may still be told the end of. -/
def isOwed (hook : η) : Service → Operation η κ → Bool
  | dial, .dialing h | lookup, .lookingUp h => h = some hook
  | _, _ => false

end Service

section

variable [DecidableEq η] (bound : Nat → Option η) (service : Service) (hook : η)

theorem reportsTo_reportTo (told : Option η) (m : Milestone) :
    reportsTo hook (reportTo told m) = if told = some hook then [m] else [] := by
  rcases told with _ | h
  · rfl
  · by_cases hh : h = hook <;> simp [reportsTo, reportTo, hh]

variable {service hook} in
/-- What is told when one operation changes is balanced if it is by this operation alone. -/
theorem countP_set_le {operations : List (Operation η κ)} {i : Nat} {o o' : Operation η κ}
    {reports : List (η × Milestone)} (hi : operations[i]? = some o)
    (hends : (reportsTo hook reports).countP service.ends
        + (if service.isOwed hook o' then 1 else 0)
      ≤ (reportsTo hook reports).countP service.starts
        + if service.isOwed hook o then 1 else 0) :
    (reportsTo hook reports).countP service.ends
        + (operations.set i o').countP (service.isOwed hook)
      ≤ (reportsTo hook reports).countP service.starts
        + operations.countP (service.isOwed hook) := by
  obtain ⟨hlt, rfl⟩ := List.getElem?_eq_some_iff.1 hi
  have hle : (if service.isOwed hook operations[i] then 1 else 0)
      ≤ operations.countP (service.isOwed hook) := by
    split_ifs with howed
    · exact List.countP_pos_iff.2 ⟨_, List.getElem_mem hlt, howed⟩
    · exact Nat.zero_le _
  rw [List.countP_set hlt]
  omega

/-- The reports of a step end no more than what they start and what is owed no longer. -/
theorem countP_advance_le (operations : List (Operation η κ)) (x : ActivityStep κ) :
    (reportsTo hook (advance bound operations x).2).countP service.ends
        + (advance bound operations x).1.countP (service.isOwed hook)
      ≤ (reportsTo hook (advance bound operations x).2).countP service.starts
        + operations.countP (service.isOwed hook) := by
  cases x with
  | dial task | lookUp task host =>
    simp only [advance, reportsTo_reportTo, List.countP_append, List.countP_singleton]
    by_cases hb : bound task = some hook <;>
      cases service <;> simp [hb, Service.starts, Service.ends, Service.isOwed, Nat.add_comm]
  | resolve host =>
    cases service <;> simp [advance, reportsTo, Service.isOwed]
  | poll i task =>
    simp only [advance]
    split
    · rename_i host hi
      refine countP_set_le hi ?_
      rw [reportsTo_reportTo]
      by_cases hb : bound task = some hook <;> cases service <;>
        simp [hb, Service.starts, Service.ends, Service.isOwed]
    · exact Nat.le_refl _
  | dialEnds i result =>
    simp only [advance]
    split
    · rename_i h hi
      refine countP_set_le hi ?_
      rw [reportsTo_reportTo]
      by_cases hh : h = some hook <;> cases service <;>
        simp [hh, Service.starts, Service.ends, Service.isOwed]
    · exact Nat.le_refl _
  | lookupEnds i result =>
    simp only [advance]
    split
    · rename_i h hi
      refine countP_set_le hi ?_
      rw [reportsTo_reportTo]
      by_cases hh : h = some hook <;> cases service <;> cases result <;>
        simp [hh, lookupReport, Service.starts, Service.ends, Service.isOwed]
    · exact Nat.le_refl _
  | drop i =>
    simp only [advance]
    have hdropped : service.isOwed hook (.dropped : Operation η κ) = false := by
      cases service <;> rfl
    split
    · exact countP_set_le ‹_› (by simp [reportsTo, hdropped])
    · exact countP_set_le ‹_› (by simp [reportsTo, hdropped])
    · exact countP_set_le ‹_› (by simp [reportsTo, hdropped])
    · exact Nat.le_refl _

/-- At no point has a hook been told of more ends than of starts, and of what was owed before. -/
theorem countP_take_le (operations : List (Operation η κ)) (xs : List (ActivityStep κ)) (n : Nat) :
    ((reportsTo hook (activity bound operations xs).2).take n).countP service.ends
      ≤ ((reportsTo hook (activity bound operations xs).2).take n).countP service.starts
        + operations.countP (service.isOwed hook) := by
  induction xs generalizing operations n with
  | nil => simp [activity, reportsTo]
  | cons x xs ih =>
    rcases n with _ | n
    · simp
    have hstep := countP_advance_le bound service hook operations x
    have hlength : (reportsTo hook (advance bound operations x).2).length ≤ n + 1 := by
      have hle : (reportsTo hook (advance bound operations x).2).length
          ≤ (advance bound operations x).2.length := by
        rw [reportsTo, List.length_map]
        exact List.length_filter_le _ _
      have hone := length_advance_le bound operations x
      omega
    have happend : reportsTo hook (activity bound operations (x :: xs)).2
        = reportsTo hook (advance bound operations x).2
          ++ reportsTo hook (activity bound (advance bound operations x).1 xs).2 := by
      simp [activity, reportsTo]
    rw [happend, List.take_append, List.take_of_length_le hlength, List.countP_append,
      List.countP_append]
    have hlater := ih (advance bound operations x).1
      (n + 1 - (reportsTo hook (advance bound operations x).2).length)
    omega

end

/-- Of any dials and lookups in any order, on tasks with hooks or without, each dial reports its
start to the hook of its task with its first step, and with the step that ends it its end, once and
with the failure if it failed; so does each lookup, with what was found, from the step that first
polls it, and to the hook of the task on which it does. What was connected or found is passed on.
Dropped, they do not report an end. Nobody else is told of them, and at no point has a hook been
told of more ends than of starts. -/
theorem milestones_pair_up [DecidableEq η] (bound : Nat → Option η) :
    (∀ (before after : List (ActivityStep κ)) (task : Nat),
      course bound (before ++ .dial task :: after) (begun before).length
        = some (dialCourse (bound task)
          (after.findSome? (ActivityStep.endsDial? (begun before).length))))
    ∧ (∀ (before after : List (ActivityStep κ)) (task : Nat) (host : String),
      course bound (before ++ .lookUp task host :: after) (begun before).length
        = some (lookupCourse (bound task) host
          (after.findSome? (ActivityStep.endsLookup? (begun before).length))))
    ∧ (∀ (before after : List (ActivityStep κ)) (host : String),
      course bound (before ++ .resolve host :: after) (begun before).length
        = some (resolveCourse bound host (begun before).length after))
    ∧ (∀ xs : List (ActivityStep κ),
      (attributed bound [] xs).map (·.2) = (activity bound [] xs).2
        ∧ ∀ report ∈ attributed bound [] xs, ∃ task,
          (begun xs)[report.1]? = some (some task) ∧ bound task = some report.2.1)
    ∧ ∀ (xs : List (ActivityStep κ)) (hook : η) (service : Service) (n : Nat),
      ((reportsTo hook (activity bound [] xs).2).take n).countP service.ends
        ≤ ((reportsTo hook (activity bound [] xs).2).take n).countP service.starts := by
  refine ⟨fun before after task => ?_, fun before after task host => ?_,
    fun before after host => ?_, fun xs => ⟨map_snd_attributed bound [] xs, (owned_run bound xs).2⟩,
    fun xs hook service n => ?_⟩
  · rw [course_of_begins (fun _ => ⟨rfl, rfl⟩), life_dialing]
  · rw [course_of_begins (fun _ => ⟨rfl, rfl⟩), life_lookingUp]
  · rw [course_of_begins (fun _ => ⟨rfl, rfl⟩), life_resolving, List.nil_append]
  · simpa using countP_take_le bound service hook [] xs n

end BearerAuth.Network
