import BearerAuth.Text.Composed

/-!
# Limits for each host

At most `max` requests to one host hold a permit at a time; if `max` is zero, none are limited. The
permits of a host are kept by a semaphore, which is made when a request asks for one and the host is
not tracked. Whenever a permit is given back, and whenever a request stops waiting, the hosts are
pruned: those whose semaphore no request has hold of are tracked no more.

What a request has of all this is its ticket. A ticket changes by small steps, between which other
tickets may take theirs. A request that stops waiting has hold of its semaphore until after the
pruning.
-/

namespace BearerAuth.Transport

/-- What a request has. Semaphores are known by the order in which they were made. -/
inductive Ticket
  /-- It has not asked for a permit. -/
  | unasked (host : String)
  | waiting (host : String) (semaphore : Nat)
  | holding (host : String) (semaphore : Nat)
  /-- It waits no more. -/
  | cancelled (host : String) (semaphore : Nat)
  /-- It waits no more, and the hosts have been pruned since. -/
  | leaving (host : String) (semaphore : Nat)
  /-- The permit is given back, and the hosts have not been pruned since. -/
  | released (host : String)
  /-- No permit is needed. -/
  | unlimited (host : String)
  | closed (host : String)
  deriving DecidableEq, Repr

namespace Ticket

def host : Ticket → String
  | unasked h | waiting h _ | holding h _ | cancelled h _ | leaving h _ | released h | unlimited h
  | closed h => h

/-- The semaphore that the request has hold of. -/
def semaphore? : Ticket → Option Nat
  | waiting _ s | holding _ s | cancelled _ s | leaving _ s => some s
  | unasked _ | released _ | unlimited _ | closed _ => none

/-- Whether the request may proceed once it is polled. -/
def isPending : Ticket → Bool
  | unasked _ | waiting .. => true
  | _ => false

def permitShown (held : Bool) : String :=
  Text.composed "HostPermit" [("held", Text.flag held)]

end Ticket

/-- The limits with all the requests that ever came to them. -/
structure HostLimits where
  max : Nat
  /-- How many permits are left of each semaphore. -/
  available : List Nat
  /-- The semaphores of the hosts that are tracked. -/
  hosts : List (String × Nat)
  tickets : List Ticket
  deriving DecidableEq, Repr

/-- A step that a ticket takes. One that does not fit the ticket changes nothing. -/
inductive Move
  /-- Finds or makes the semaphore of the host. -/
  | ask
  /-- Takes a permit if one is left. -/
  | poll
  /-- Stops waiting. -/
  | cancel
  | giveBack
  /-- Prunes the hosts. -/
  | prune
  /-- Lets go of the semaphore. -/
  | letGo
  deriving DecidableEq, Repr

/-- What happens to the limits. -/
inductive LimitStep
  /-- A request comes. -/
  | enter (host : String)
  | move (ticket : Nat) (m : Move)
  deriving DecidableEq, Repr

namespace HostLimits

/-- Limits that no request has come to. -/
def new (max : Nat) : HostLimits :=
  ⟨max, [], [], []⟩

/-- The hosts whose semaphore a request has hold of. -/
def inUse (tickets : List Ticket) (hosts : List (String × Nat)) : List (String × Nat) :=
  hosts.filter fun (_, s) => tickets.any fun t => t.semaphore? = some s

/-- How many permits are left of a semaphore. -/
def left (l : HostLimits) (s : Nat) : Nat :=
  l.available.getD s 0

def put (l : HostLimits) (i : Nat) (t : Ticket) : HostLimits :=
  { l with tickets := l.tickets.set i t }

/-- Forgets the hosts that are not in use. -/
def pruned (l : HostLimits) : HostLimits :=
  { l with hosts := inUse l.tickets l.hosts }

def moved (l : HostLimits) (i : Nat) : Ticket → Move → HostLimits
  | .unasked h, .ask =>
    if l.max = 0 then l.put i (.unlimited h)
    else match l.hosts.lookup h with
      | some s => l.put i (.waiting h s)
      | none =>
        let s := l.available.length
        { l with available := l.available ++ [l.max], hosts := l.hosts ++ [(h, s)] }.put i
          (.waiting h s)
  | .waiting h s, .poll =>
    if 0 < l.left s then
      { l with available := l.available.set s (l.left s - 1) }.put i (.holding h s)
    else l
  | .unasked h, .cancel => l.put i (.closed h)
  | .waiting h s, .cancel => l.put i (.cancelled h s)
  | .holding h s, .giveBack =>
    { l with available := l.available.set s (l.left s + 1) }.put i (.released h)
  | .released h, .prune => (l.put i (.closed h)).pruned
  | .cancelled h s, .prune => l.pruned.put i (.leaving h s)
  | .leaving h _, .letGo => l.put i (.closed h)
  | .unlimited h, .letGo => l.put i (.closed h)
  | _, _ => l

def step (l : HostLimits) : LimitStep → HostLimits
  | .enter host => { l with tickets := l.tickets ++ [.unasked host] }
  | .move i m =>
    match l.tickets[i]? with
    | some t => l.moved i t m
    | none => l

def run (l : HostLimits) (steps : List LimitStep) : HostLimits :=
  steps.foldl step l

def polling (i : Nat) : List LimitStep :=
  [.move i .ask, .move i .poll]

/-- The steps of a request that is dropped, wherever it is. -/
def dropping (i : Nat) : List LimitStep :=
  [.move i .cancel, .move i .giveBack, .move i .prune, .move i .letGo]

def tracked (l : HostLimits) : Nat :=
  l.hosts.length

end HostLimits

end BearerAuth.Transport
