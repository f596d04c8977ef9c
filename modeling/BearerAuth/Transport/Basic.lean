import BearerAuth.Network.Activity
import BearerAuth.Observe.Hook

/-!
# Transports

A transport carries requests, and what it does depends on a state of its own. While it carries a
request there are dials and lookups, and in the end there is a response or a failure.
-/

namespace BearerAuth

open Http

/-- What happens to a request that is carried. The task of the request is number zero; steps of
other tasks may come in between. -/
structure Exchange where
  activity : List (Network.ActivityStep String)
  reply : Except RequestError Response

/-- Something that carries requests. -/
structure Transport (σ : Type) where
  execute : Request → σ → Exchange × σ
  /-- The deadline of requests that have none, or zero. -/
  httpTimeout : Time.Duration
  closeIdle : σ → List Receipt × σ

/-- The task of a request, by its number. -/
def ownTask (task : Nat) : Option Unit :=
  if task = 0 then some () else none

/-- The milestones of a request's own dials and lookups. -/
def Exchange.milestones (e : Exchange) : List Milestone :=
  (Network.activity ownTask [] e.activity).2.map (·.2)

end BearerAuth
