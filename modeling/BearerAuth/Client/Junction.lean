import BearerAuth.Client.Execute

/-!
# Requests over one network

The requests of a client that are underway at the same time share one network, and perhaps one hook.
Each of them has a scope of its own, which hands milestones on to the hook and remembers whether
anything was dialed in it. The scope of a request is bound to its task while the request is
underway, so a dial or a lookup for it takes that scope, and reports to it when it ends, whenever
and wherever that may be. A task without a request that is underway has no scope. The tasks of
requests are known by the numbers of the requests, in the order of their calls.
-/

namespace BearerAuth

open Http Network Time

/-- How far a request has come. -/
inductive Passage
  /-- There was no token. -/
  | refused (r : Request) (e : Error)
  /-- The token cannot stand in a header. -/
  | rejected (r : Request)
  /-- The transport has the request, and something was dialed for it so far, or nothing. -/
  | underway (r : Request) (dialed : Bool)
  | answered (r : Request) (dialed : Bool) (reply : Except RequestError Response)
  /-- It was given up by its caller. -/
  | abandoned (r : Request)

/-- What a scope remembers of a milestone. -/
def Passage.told : Passage → Milestone → Passage
  | underway r _, .dialStart => underway r true
  | p, _ => p

inductive JunctionStep
  /-- A request is called for, with the token that its provider gave after some time. -/
  | call (token : Except Error Token.Secret) (elapsed : Duration) (r : Request)
  | network (x : ActivityStep String)
  /-- The transport is done with the request of a given number. -/
  | finish (i : Nat) (reply : Except RequestError Response)
  | abandon (i : Nat)

/-- The requests of a client in the order of their calls, the dials and lookups on the network with
the scopes that they took, and the signals, each with the number of the request that it is about. -/
structure Junction where
  passages : List Passage
  operations : List (Operation Nat String)
  signals : List (Nat × Signal)

namespace Junction

def initial : Junction :=
  ⟨[], [], []⟩

/-- The signals about one request. -/
def signalsOf (w : Junction) (i : Nat) : List Signal :=
  (w.signals.filter (·.1 = i)).map (·.2)

/-- Hands reports to the scopes that they are for. -/
def tell (passages : List Passage) (reports : List (Nat × Milestone)) : List Passage :=
  reports.foldl (fun passages (i, m) => passages.modify i (·.told m)) passages

end Junction

/-- An exchange of which no more is known than whether anything was dialed in it. -/
def Exchange.ofDialed (dialed : Bool) (reply : Except RequestError Response) : Exchange :=
  ⟨if dialed then [.dial 0] else [], reply⟩

namespace Client

variable {σ : Type} (c : Client σ)

/-- A call up to where the request is handed to the transport. -/
def begin (token : Except Error Token.Secret) (elapsed : Duration) (r : Request) :
    Passage × List Signal :=
  match token with
  | .error e => (.refused r e, refusal r e)
  | .ok token =>
    match credential? token with
    | none => (.rejected r, [])
    | some credential =>
      let r := c.prepared credential elapsed r
      (.underway r false, c.departure r)

/-- The scope that is bound to a task. -/
def scope? (passages : List Passage) (task : Nat) : Option Nat :=
  match passages[task]? with
  | some (.underway ..) => if c.settings.trace.isSome then some task else none
  | _ => none

/-- One step. One that does not fit its request changes nothing. -/
def pass (w : Junction) : JunctionStep → Junction
  | .call token elapsed r =>
    let (passage, emitted) := c.begin token elapsed r
    ⟨w.passages ++ [passage], w.operations,
      w.signals ++ emitted.map fun s => (w.passages.length, s)⟩
  | .network x =>
    let (operations, reports) := advance (c.scope? w.passages) w.operations x
    ⟨Junction.tell w.passages reports, operations,
      w.signals ++ reports.map fun (i, m) => (i, .reached m)⟩
  | .finish i reply =>
    match w.passages[i]? with
    | some (.underway r dialed) =>
      ⟨w.passages.set i (.answered r dialed reply), w.operations,
        w.signals ++ (c.arrival r (.ofDialed dialed reply)).map fun s => (i, s)⟩
    | _ => w
  | .abandon i =>
    match w.passages[i]? with
    | some (.underway r _) => ⟨w.passages.set i (.abandoned r), w.operations, w.signals⟩
    | _ => w

/-- The requests of a client after some steps. -/
def junction (steps : List JunctionStep) : Junction :=
  steps.foldl c.pass .initial

end Client

end BearerAuth
