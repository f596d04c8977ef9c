import BearerAuth.Client.Execute

/-!
# Requests side by side

Many requests may be on their way through one client. A request is called for in one step, up to
where it is handed to the transport; there it is underway, while the transport does things on the
network for it, until the transport is done with it or its caller gives it up. Between the steps of
one request there may be any steps of others. No transport is looked into here: it may do anything
at any time.
-/

namespace BearerAuth

open Http Network Time

/-- How far a request has come. -/
inductive Trip
  /-- There was no token. -/
  | refused (e : Error)
  /-- The token cannot stand in a header. -/
  | rejected
  /-- The transport has the request, and has done this for it so far. -/
  | underway (r : Request) (activity : List (ActivityStep String))
  | answered (reply : Except RequestError Response)
  /-- It was given up by its caller. -/
  | dropped

/-- What the caller gets, once there is something to get. -/
def Trip.result? : Trip → Option (Except Error Response)
  | refused e => some (.error e)
  | rejected => some (.error (.request .invalidHeader))
  | answered reply => some (reply.mapError .request)
  | underway .. | dropped => none

/-- What happens to a request that is underway. -/
inductive TripStep
  | network (x : ActivityStep String)
  | finish (reply : Except RequestError Response)
  | drop

inductive TrafficStep
  /-- A request is called for, with the token that its provider gave after some time. -/
  | call (token : Except Error Token.Secret) (elapsed : Duration) (r : Request)
  /-- The request of a given number goes on. -/
  | move (i : Nat) (x : TripStep)

/-- The requests of a client in the order of their calls, and the signals of all of them. -/
structure Traffic where
  trips : List Trip
  signals : List Signal

/-- The milestones of one more step on the network. -/
def nextMilestones (activity : List (ActivityStep String)) (x : ActivityStep String) :
    List Milestone :=
  (advance ownTask (Network.activity ownTask [] activity).1 x).2.map (·.2)

namespace Client

variable {σ : Type} (c : Client σ)

def depart (token : Except Error Token.Secret) (elapsed : Duration) (r : Request) :
    Trip × List Signal :=
  match token with
  | .error e => (.refused e, refusal r e)
  | .ok token =>
    match credential? token with
    | none => (.rejected, [])
    | some credential =>
      let r := c.prepared credential elapsed r
      (.underway r [], c.departure r)

def travel : Trip → TripStep → Trip × List Signal
  | .underway r activity, .network x =>
    (.underway r (activity ++ [x]), c.reach (nextMilestones activity x))
  | .underway r activity, .finish reply => (.answered reply, c.arrival r ⟨activity, reply⟩)
  | .underway .., .drop => (.dropped, [])
  | trip, _ => (trip, [])

/-- One step. One that does not fit its request changes nothing. -/
def step (w : Traffic) : TrafficStep → Traffic
  | .call token elapsed r =>
    let (trip, emitted) := c.depart token elapsed r
    ⟨w.trips ++ [trip], w.signals ++ emitted⟩
  | .move i x =>
    match w.trips[i]? with
    | none => w
    | some trip =>
      let (trip, emitted) := c.travel trip x
      ⟨w.trips.set i trip, w.signals ++ emitted⟩

def run (steps : List TrafficStep) : Traffic :=
  steps.foldl c.step ⟨[], []⟩

end Client

end BearerAuth
