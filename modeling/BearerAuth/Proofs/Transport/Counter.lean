import BearerAuth.Transport.HostLimits
import Mathlib.Data.List.Basic

/-!
# The counter of one host

A host with a counter for itself alone: it begins with all permits and is never thrown away, and
each permit that is taken leaves one less. The tickets of other hosts have numbers at the counter but
take no steps there, so their moves may as well be left out of a run (`run_movesOf`).
-/

namespace BearerAuth.Transport

/-- How far a request has come, without the semaphore that it has hold of. -/
inductive Stage
  | unasked
  | waiting
  | holding
  | cancelled
  | leaving
  | released
  | unlimited
  | closed
  deriving DecidableEq, Repr

namespace Ticket

def stage : Ticket → Stage
  | unasked _ => .unasked
  | waiting .. => .waiting
  | holding .. => .holding
  | cancelled .. => .cancelled
  | leaving .. => .leaving
  | released _ => .released
  | unlimited _ => .unlimited
  | closed _ => .closed

/-- The stage of a ticket of one host. -/
def stageAt (g : String) (t : Ticket) : Option Stage :=
  if t.host = g then some t.stage else none

variable {g : String} {t : Ticket}

theorem stageAt_of_eq (h : t.host = g) : t.stageAt g = some t.stage :=
  if_pos h

theorem stageAt_of_ne (h : t.host ≠ g) : t.stageAt g = none :=
  if_neg h

end Ticket

/-- The permits of one host, and the stages of its tickets. Tickets of other hosts have their
numbers, but no stage. -/
@[ext]
structure Counter where
  free : Nat
  stages : List (Option Stage)
  deriving DecidableEq, Repr

namespace Counter

def new (max : Nat) : Counter :=
  ⟨max, []⟩

def put (c : Counter) (i : Nat) (stage : Stage) : Counter :=
  { c with stages := c.stages.set i (some stage) }

/-- The step of one ticket of the host. -/
def moved (c : Counter) (i : Nat) : Stage → Move → Counter
  | .unasked, .ask => c.put i .waiting
  | .waiting, .poll => if 0 < c.free then { c with free := c.free - 1 }.put i .holding else c
  | .unasked, .cancel => c.put i .closed
  | .waiting, .cancel => c.put i .cancelled
  | .holding, .giveBack => { c with free := c.free + 1 }.put i .released
  | .released, .prune => c.put i .closed
  | .cancelled, .prune => c.put i .leaving
  | .leaving, .letGo => c.put i .closed
  | .unlimited, .letGo => c.put i .closed
  | _, _ => c

/-- One step, at the counter of a host. -/
def step (g : String) (c : Counter) : LimitStep → Counter
  | .enter h => { c with stages := c.stages ++ [if h = g then some .unasked else none] }
  | .move i m =>
    match c.stages[i]? with
    | some (some stage) => c.moved i stage m
    | _ => c

/-- A run of steps, at the counter of a host. -/
def run (g : String) (c : Counter) (steps : List LimitStep) : Counter :=
  steps.foldl (step g) c

end Counter

/-- Steps without the moves of tickets of other hosts, where the hosts of the first tickets are
given. Tickets still come, so that they keep their numbers. -/
def movesOf (g : String) : List String → List LimitStep → List LimitStep
  | _, [] => []
  | hosts, .enter h :: steps => .enter h :: movesOf g (hosts ++ [h]) steps
  | hosts, .move i m :: steps =>
    if hosts[i]? = some g then .move i m :: movesOf g hosts steps else movesOf g hosts steps

namespace Counter

variable {c : Counter} {g : String}

/-- The tickets that have a stage at a counter are those of its host. -/
def Serves (c : Counter) (g : String) (hosts : List String) : Prop :=
  c.stages.map Option.isSome = hosts.map (· == g)

theorem isSome_put {i : Nat} {stage : Stage} (hi : c.stages[i]? = some (some stage))
    (later : Stage) : (c.put i later).stages.map Option.isSome = c.stages.map Option.isSome := by
  refine List.ext_getElem? fun j => ?_
  simp only [put, List.getElem?_map, List.getElem?_set]
  split_ifs with hij hlt
  · rw [← hij, hi]
    rfl
  · rw [← hij, List.getElem?_eq_none (Nat.not_lt.1 hlt)]
  · rfl

theorem isSome_moved {i : Nat} {stage : Stage} (hi : c.stages[i]? = some (some stage)) (m : Move) :
    (c.moved i stage m).stages.map Option.isSome = c.stages.map Option.isSome := by
  unfold moved
  split
  · exact isSome_put hi _
  · split_ifs
    · exact isSome_put (c := { c with free := c.free - 1 }) hi _
    · rfl
  · exact isSome_put hi _
  · exact isSome_put hi _
  · exact isSome_put (c := { c with free := c.free + 1 }) hi _
  · exact isSome_put hi _
  · exact isSome_put hi _
  · exact isSome_put hi _
  · exact isSome_put hi _
  · rfl

theorem Serves.step {hosts : List String} (h : c.Serves g hosts) (i : Nat) (m : Move) :
    (c.step g (.move i m)).Serves g hosts := by
  simp only [Counter.step]
  split
  · rename_i stage hi
    exact (isSome_moved hi m).trans h
  · exact h

theorem Serves.enter {hosts : List String} (h : c.Serves g hosts) (host : String) :
    (c.step g (.enter host)).Serves g (hosts ++ [host]) := by
  unfold Serves at h ⊢
  simp only [Counter.step, List.map_append, h, List.map_cons, List.map_nil]
  by_cases hg : host = g <;> simp [hg]

theorem step_of_other {hosts : List String} (h : c.Serves g hosts) {i : Nat}
    (hi : hosts[i]? ≠ some g) (m : Move) : c.step g (.move i m) = c := by
  simp only [Counter.step]
  split
  · rename_i stage hstage
    have hserved := congrArg (·[i]?) h
    simp only [List.getElem?_map] at hserved
    rw [hstage] at hserved
    obtain ⟨host, hhost, heq⟩ := Option.map_eq_some_iff.1 hserved.symm
    exact absurd (hhost.trans (congrArg some (beq_iff_eq.1 heq))) hi
  · rfl

/-- At a counter, the moves of other hosts' tickets may be left out. -/
theorem run_movesOf : ∀ (steps : List LimitStep) {c : Counter} {hosts : List String},
    c.Serves g hosts → c.run g (movesOf g hosts steps) = c.run g steps
  | [], _, _, _ => rfl
  | .enter host :: steps, c, hosts, h => run_movesOf steps (h.enter host)
  | .move i m :: steps, c, hosts, h => by
    simp only [movesOf]
    split_ifs with hi
    · exact run_movesOf steps (h.step i m)
    · rw [run_movesOf steps h]
      simp only [run, List.foldl_cons, step_of_other h hi]

end Counter

end BearerAuth.Transport
