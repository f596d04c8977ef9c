import BearerAuth.Observe.Milestone

/-!
# Dials and lookups

A task may have a hook bound to it. A dial takes the hook of the task that calls for it, a lookup
that of the task on which it is first polled, whoever has called for it; either reports its start to
that hook, and its end to the same hook, whichever task it ends on. What is connected or found is
passed on as it is.
-/

namespace BearerAuth.Network

/-- A dial or a lookup, with the hook that it took. -/
inductive Operation (η κ : Type)
  | dialing (hook : Option η)
  /-- A lookup that was called for and has not been polled; it has taken no hook. -/
  | resolving (host : String)
  | lookingUp (hook : Option η)
  | dialed (result : Except Cause κ)
  | lookedUp (result : Except Cause (List Socket))
  /-- It was dropped before its end. -/
  | dropped

/-- What happens to dials and lookups, which are known by the order in which they began. -/
inductive ActivityStep (κ : Type)
  /-- A task calls for a connection. -/
  | dial (task : Nat)
  | dialEnds (operation : Nat) (result : Except Cause κ)
  /-- A lookup is called for, by whatever task. -/
  | resolve (host : String)
  /-- A lookup that was called for is polled on a task. -/
  | poll (operation task : Nat)
  /-- A lookup is called for and polled at once. -/
  | lookUp (task : Nat) (host : String)
  | lookupEnds (operation : Nat) (result : Except Cause (List Socket))
  | drop (operation : Nat)

def failure? {α : Type} : Except Cause α → Option Cause
  | .ok _ => none
  | .error cause => some cause

/-- A report to a hook, if there is one. -/
def reportTo {η : Type} (hook : Option η) (m : Milestone) : List (η × Milestone) :=
  hook.toList.map fun h => (h, m)

def lookupReport : Except Cause (List Socket) → Milestone
  | .ok found => .lookupDone found none
  | .error cause => .lookupDone [] (some cause)

section

variable {η κ : Type} (bound : Nat → Option η)

/-- One step: what becomes of the operations, and what is reported to whom. A step that does not
fit its operation changes nothing. -/
def advance (operations : List (Operation η κ)) :
    ActivityStep κ → List (Operation η κ) × List (η × Milestone)
  | .dial task => (operations ++ [.dialing (bound task)], reportTo (bound task) .dialStart)
  | .resolve host => (operations ++ [.resolving host], [])
  | .poll i task =>
    match operations[i]? with
    | some (.resolving host) =>
      (operations.set i (.lookingUp (bound task)), reportTo (bound task) (.lookupStart host))
    | _ => (operations, [])
  | .lookUp task host =>
    (operations ++ [.lookingUp (bound task)], reportTo (bound task) (.lookupStart host))
  | .dialEnds i result =>
    match operations[i]? with
    | some (.dialing hook) =>
      (operations.set i (.dialed result), reportTo hook (.dialDone (failure? result)))
    | _ => (operations, [])
  | .lookupEnds i result =>
    match operations[i]? with
    | some (.lookingUp hook) =>
      (operations.set i (.lookedUp result), reportTo hook (lookupReport result))
    | _ => (operations, [])
  | .drop i =>
    match operations[i]? with
    | some (.dialing _) | some (.resolving _) | some (.lookingUp _) =>
      (operations.set i .dropped, [])
    | _ => (operations, [])

/-- A run of steps. -/
def activity (operations : List (Operation η κ)) :
    List (ActivityStep κ) → List (Operation η κ) × List (η × Milestone)
  | [] => (operations, [])
  | step :: later =>
    let (operations, reports) := advance bound operations step
    let (operations, laterReports) := activity operations later
    (operations, reports ++ laterReports)

theorem activity_append (operations : List (Operation η κ)) (xs ys : List (ActivityStep κ)) :
    activity bound operations (xs ++ ys) =
      ((activity bound (activity bound operations xs).1 ys).1,
        (activity bound operations xs).2
          ++ (activity bound (activity bound operations xs).1 ys).2) := by
  induction xs generalizing operations with
  | nil => rfl
  | cons x xs ih => simp only [List.cons_append, activity, ih, List.append_assoc]

end

/-- The reports to one hook, in their order. -/
def reportsTo {η : Type} [DecidableEq η] (hook : η) (reports : List (η × Milestone)) :
    List Milestone :=
  (reports.filter (·.1 = hook)).map (·.2)

/-- Looks a host up. An address stands for itself, and a name with a NUL in it cannot be asked for;
any other name is left to the system. -/
def lookUp (system : String → Except Cause (List HostAddress)) (host : String) :
    Except Cause (List Socket) :=
  match Socket.ofName? host.toList with
  | some s => .ok [s]
  | none =>
    if host.contains '\x00' then
      .error (.described "file name contained an unexpected NUL byte")
    else (system host).map (·.map fun a => ⟨a, 0, 0⟩)

end BearerAuth.Network
