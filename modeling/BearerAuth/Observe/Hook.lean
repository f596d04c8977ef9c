import BearerAuth.Observe.Milestone

/-!
# Loggers and hooks

A logger is where records go, a hook where milestones go. A logging hook writes every milestone to
a logger as a record. What reaches whom is a list of receipts, in the order of their arrival.
-/

namespace BearerAuth

/-- Where records go. -/
inductive Logger
  /-- They are dropped. -/
  | silent
  | recorder (name : String)
  deriving DecidableEq, Repr

/-- Where milestones go. -/
inductive Hook
  /-- They are written to a logger. -/
  | logging (logger : Logger) (level : Level)
  | observer (number : Nat)
  deriving DecidableEq, Repr

/-- What reaches whom. -/
inductive Receipt
  | recorded (recorder : String) (r : Record)
  | observed (observer : Nat) (m : Milestone)
  deriving DecidableEq, Repr

def Logger.receive : Logger → Record → List Receipt
  | silent, _ => []
  | recorder name, r => [.recorded name r]

/-- What an emission brings to whom, where records go to a logger. -/
def Emission.receipts (l : Logger) : Emission → List Receipt
  | counted _ => []
  | logged r => l.receive r

def Hook.receive : Hook → Milestone → List Receipt
  | logging logger level, m => logger.receive (m.toRecord level)
  | observer number, m => [.observed number m]

namespace Receipt

/-- The records that reach a recorder. -/
def recordsAt (name : String) (rs : List Receipt) : List Record :=
  rs.filterMap fun
    | recorded recorder r => if recorder = name then some r else none
    | observed .. => none

/-- The milestones that reach observers. -/
def milestones (rs : List Receipt) : List Milestone :=
  rs.filterMap fun
    | recorded .. => none
    | observed _ m => some m

end Receipt

end BearerAuth
