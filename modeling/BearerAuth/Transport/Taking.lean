import BearerAuth.Transport.Source

/-!
# Transports taken side by side

Many callers may ask for a transport at once, some of them a shared source and some a fresh one of
the same configuration. The shared source keeps the outcome of its one build in a cell. A caller
that finds the cell empty waits for its turn. One caller at a time has the turn, until it has filled
the cell; a caller whose turn would come after that reads the cell. A schedule says whose step is
next; between the steps of one call there may be any steps of others, and a caller that has to wait
lets its step pass.
-/

namespace BearerAuth.Transport

/-- A shared source and a fresh one of one configuration, each with its builder. -/
structure Sources where
  config : Config
  sharing : Builder
  making : Builder

namespace Sources

def shared (sources : Sources) : Source :=
  ⟨sources.config, sources.sharing⟩

def fresh (sources : Sources) : Source :=
  ⟨sources.config, sources.making⟩

end Sources

/-- How far a call has come. -/
inductive Taking
  /-- It is to ask the shared source. -/
  | asking
  /-- It found the cell empty. -/
  | waiting
  /-- It has the turn. -/
  | building
  /-- It has built, and nothing is in the cell yet. -/
  | storing (built : Except TransportError Pooled)
  /-- The cell is filled. -/
  | reading
  | served (result : Except TransportError Pooled)
  /-- It is to ask the fresh source. -/
  | requesting
  | supplied (result : Except TransportError Pooled)

namespace Taking

/-- Whether a call has the turn to fill the cell. -/
def hasTurn : Taking → Bool
  | building | storing _ => true
  | _ => false

/-- What the shared source gave. -/
def served? : Taking → Option (Except TransportError Pooled)
  | served result => some result
  | _ => none

/-- What the fresh source gave. -/
def supplied? : Taking → Option (Except TransportError Pooled)
  | supplied result => some result
  | _ => none

def isOver (call : Taking) : Bool :=
  call.served?.isSome || call.supplied?.isSome

/-- Whether a call, among all calls, need not wait for its turn. -/
def mayStep (calls : List Taking) : Taking → Bool
  | waiting => !calls.any hasTurn
  | _ => true

end Taking

/-- What a builder was run for, and what came of it. -/
inductive Build
  | forAll (built : Except TransportError Pooled)
  | forOne (built : Except TransportError Pooled)

/-- Sources with their callers, and the builds so far. -/
structure Takers where
  state : Source.State
  calls : List Taking
  builds : List Build

namespace Takers

variable (sources : Sources)

/-- One call's next step: the state and the call after it, and what it builds. -/
def advance (state : Source.State) : Taking → Source.State × Taking × List Build
  | .asking =>
    match state.first with
    | some first => (state, .served (Source.shared first), [])
    | none => (state, .waiting, [])
  | .waiting => (state, if state.first.isSome then .reading else .building, [])
  | .building =>
    let (built, state) := sources.shared.takeFresh state
    (state, .storing built, [.forAll built])
  | .storing built => ({ state with first := some built }, .reading, [])
  | .reading =>
    match state.first with
    | some first => (state, .served (Source.shared first), [])
    | none => (state, .reading, [])
  | .requesting =>
    let (built, state) := sources.fresh.takeFresh state
    (state, .supplied built, [.forOne built])
  | .served result => (state, .served result, [])
  | .supplied result => (state, .supplied result, [])

/-- The call of a given number, unless it has to wait. -/
def moving? (w : Takers) (i : Nat) : Option Taking :=
  w.calls[i]?.filter (·.mayStep w.calls)

/-- Lets the caller of a given number take its next step. -/
def step (w : Takers) (i : Nat) : Takers :=
  match w.moving? i with
  | none => w
  | some call =>
    let (state, call, built) := advance sources w.state call
    ⟨state, w.calls.set i call, w.builds ++ built⟩

def run (w : Takers) (schedule : List Nat) : Takers :=
  schedule.foldl (step sources) w

/-- Callers that are to ask the one source or the other, before anything is built. -/
def gathered (sharing making : Nat) : Takers :=
  ⟨.initial, List.replicate sharing .asking ++ List.replicate making .requesting, []⟩

/-- What the callers of the shared source got. -/
def sharedResults (w : Takers) : List (Except TransportError Pooled) :=
  w.calls.filterMap Taking.served?

/-- What the callers of the fresh source got. -/
def freshResults (w : Takers) : List (Except TransportError Pooled) :=
  w.calls.filterMap Taking.supplied?

end Takers

/-- Callers of both sources, after they have gone on as a schedule says. -/
def Sources.takers (sources : Sources) (sharing making : Nat) (schedule : List Nat) : Takers :=
  Takers.run sources (.gathered sharing making) schedule

end BearerAuth.Transport
