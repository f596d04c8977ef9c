import BearerAuth.Observe.Outcome

/-!
# Log records

A record has a level, a message and named fields, whose values are texts when it is made. What an
operation lets others see of it is a list of emissions: records and counted outcomes, in the order
in which they occur.
-/

namespace BearerAuth

/-- How much a record matters. -/
inductive Level
  | trace
  | debug
  | info
  | warn
  | error
  deriving DecidableEq, Repr

def Level.name : Level → String
  | trace => "TRACE"
  | debug => "DEBUG"
  | info => "INFO"
  | warn => "WARN"
  | error => "ERROR"

/-- An entry of a log. -/
structure Record where
  level : Level
  message : String
  fields : List (String × String)
  deriving DecidableEq, Repr

/-- What others see of an operation. -/
inductive Emission
  | counted (o : Outcome)
  | logged (r : Record)
  deriving DecidableEq, Repr

namespace Emission

/-- The outcomes among some emissions. -/
def outcomes (es : List Emission) : List Outcome :=
  es.filterMap fun
    | counted o => some o
    | logged _ => none

/-- The records among some emissions. -/
def records (es : List Emission) : List Record :=
  es.filterMap fun
    | counted _ => none
    | logged r => some r

end Emission

end BearerAuth
