/-!
# Counted outcomes

Every attempt to mint a token and every request counts under exactly one outcome. A counter is
named by what it counts and the label of the outcome.
-/

namespace BearerAuth

/-- How an attempt to mint a token ended. -/
inductive MintOutcome
  | success
  | failure
  deriving DecidableEq, Repr

namespace MintOutcome

def label : MintOutcome → String
  | success => "success"
  | failure => "failure"

def identifier : MintOutcome → String
  | success => "Success"
  | failure => "Failure"

end MintOutcome

/-- How a request ended. -/
inductive RequestOutcome
  /-- The transport returned a response. -/
  | response
  /-- There was no token, and nothing was dispatched. -/
  | tokenFailure
  /-- The transport failed. -/
  | transportFailure
  deriving DecidableEq, Repr

namespace RequestOutcome

def label : RequestOutcome → String
  | response => "response"
  | tokenFailure => "token_failure"
  | transportFailure => "transport_failure"

def identifier : RequestOutcome → String
  | response => "Response"
  | tokenFailure => "TokenFailure"
  | transportFailure => "TransportFailure"

end RequestOutcome

/-- What is counted. -/
inductive Outcome
  | mint (o : MintOutcome)
  | request (o : RequestOutcome)
  deriving DecidableEq, Repr

namespace Outcome

/-- The name of the counter, without the label. -/
def counter : Outcome → String
  | mint _ => "es256_bearer_token_mint_total"
  | request _ => "es256_bearer_request_total"

def label : Outcome → String
  | mint o => o.label
  | request o => o.label

def identifier : Outcome → String
  | mint o => o.identifier
  | request o => o.identifier

/-- The name of the counter with its label. -/
def key (o : Outcome) : String :=
  o.counter ++ "\x7boutcome=" ++ o.label ++ "\x7d"

def all : List Outcome :=
  [mint .success, mint .failure, request .response, request .tokenFailure,
    request .transportFailure]

/-- The counters that a run of outcomes has moved, with their counts. -/
def tally (run : List Outcome) : List (String × Nat) :=
  (all.filter fun o => run.contains o).map fun o => (o.key, run.count o)

end Outcome

end BearerAuth
