import BearerAuth.Token.Provider

/-!
# Interleaved calls

Many callers may ask one provider for a token at once. The kept token is read under a lock that
callers may share, and read again and replaced under one that a caller has for itself: a caller
waits for the exclusive lock while anyone has either, and for the shared one while anyone has the
exclusive one. A schedule says whose step is next; between the steps of one call there may be any
steps of others, and a caller that has to wait lets its step pass.
-/

namespace BearerAuth.Token

open Time

/-- How far a call has come. -/
inductive Call
  | started (now : Instant)
  /-- It has the shared lock. -/
  | looking (now : Instant)
  /-- No valid token was found, and the exclusive lock is asked for. -/
  | waiting (now : Instant)
  /-- It has the exclusive lock, and looks again. -/
  | checking (now : Instant)
  /-- There is still no valid token. -/
  | signing (now : Instant)
  /-- The answer is there, and nothing is kept of it yet. -/
  | storing (answer : Answer)
  /-- Nothing is left to be done under the exclusive lock. -/
  | leaving (answer : Answer)
  /-- The exclusive lock is given back, and nothing is reported yet. -/
  | reporting (answer : Answer)
  | returned (answer : Answer)

namespace Call

/-- Whether a call has the shared lock. -/
def isReading : Call → Bool
  | looking _ => true
  | _ => false

/-- Whether a call has the exclusive lock. -/
def isWriting : Call → Bool
  | checking _ | signing _ | storing _ | leaving _ => true
  | _ => false

/-- Whether a call, among all calls, need not wait for a lock. -/
def mayStep (calls : List Call) : Call → Bool
  | started _ => !calls.any isWriting
  | waiting _ => !calls.any fun call => call.isReading || call.isWriting
  | _ => true

end Call

/-- A provider with its callers, and what was seen of the calls so far. -/
structure Crowd (σ : Type) where
  state : Provider.State σ
  calls : List Call
  /-- Each emission, and whether a token was kept when it was made. -/
  seen : List (Emission × Bool)

namespace Crowd

variable {σ : Type} (p : Provider σ)

/-- One call's next step: the state and the call after it, and what it emits. -/
def advance (state : Provider.State σ) : Call → Provider.State σ × Call × List Emission
  | .started now => (state, .looking now, [])
  | .looking now =>
    match Provider.lookup state.slot now with
    | some token => (state, .returned (.cached token), [])
    | none => (state, .waiting now, [])
  | .waiting now => (state, .checking now, [])
  | .checking now =>
    match Provider.lookup state.slot now with
    | some token => (state, .leaving (.cached token), [])
    | none => (state, .signing now, [])
  | .signing now =>
    let (answer, signer) := p.mint now state.signer
    (⟨state.slot, signer⟩, .storing answer, [])
  | .storing answer => (⟨Provider.kept state.slot answer, state.signer⟩, .leaving answer, [])
  | .leaving answer => (state, .reporting answer, [])
  | .reporting answer => (state, .returned answer, p.report answer)
  | .returned answer => (state, .returned answer, [])

/-- The call of a given number, unless it has to wait. -/
def moving? (c : Crowd σ) (i : Nat) : Option Call :=
  c.calls[i]?.filter (·.mayStep c.calls)

/-- Lets the caller of a given number take its next step. -/
def step (c : Crowd σ) (i : Nat) : Crowd σ :=
  match c.moving? i with
  | none => c
  | some call =>
    let (state, call, emitted) := advance p c.state call
    ⟨state, c.calls.set i call, c.seen ++ emitted.map fun e => (e, state.slot.isSome)⟩

def run (c : Crowd σ) (schedule : List Nat) : Crowd σ :=
  schedule.foldl (step p) c

/-- Callers that ask, each at its instant, and have done nothing so far. -/
def asking (state : Provider.State σ) (nows : List Instant) : Crowd σ :=
  ⟨state, nows.map .started, []⟩

def ask (state : Provider.State σ) (callers : Nat) (now : Instant) : Crowd σ :=
  asking state (List.replicate callers now)

/-- Every caller looks at the kept token, then every caller in turn has the exclusive lock, then
every caller reports. All calls have then returned. -/
def roundRobin (callers : Nat) : List Nat :=
  List.range callers ++ List.range callers
    ++ (List.range callers).flatMap (List.replicate 5) ++ List.range callers

/-- The answers of the calls that have returned. -/
def answers (c : Crowd σ) : List Answer :=
  c.calls.filterMap fun
    | .returned answer => some answer
    | _ => none

end Crowd

end BearerAuth.Token
