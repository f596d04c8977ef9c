import BearerAuth.Client.Build
import BearerAuth.Token.Secret

/-!
# Executing requests

A request is dispatched when there is a token for it that can stand in a header. The token becomes
the one value of the authorization header, out of sight, and the deadline of the client that of a
request without one, less the time that has passed. What others see of all this is a list of
signals, in which the credential is redacted.
-/

namespace BearerAuth

open Http Time

/-- What others see of a request. -/
inductive Signal
  | counted (o : RequestOutcome)
  | logged (r : Record)
  | reached (m : Milestone)
  deriving DecidableEq, Repr

/-- What a signal brings to whom, where records and milestones go as the settings say. -/
def Signal.receipts {σ : Type} (s : Settings σ) : Signal → List Receipt
  | counted _ => []
  | logged r => s.logger.receive r
  | reached m => s.trace.toList.flatMap (·.receive m)

/-- What comes of a request, with the state of the transport after it. -/
structure Execution (σ : Type) where
  signals : List Signal
  result : Except Error Response
  state : σ

def bearerScheme : String := "Bearer"

/-- The header value that carries a token, unless the token has an illegal octet. -/
def credential? (token : Token.Secret) : Option HeaderValue :=
  (HeaderValue.ofOctets? (Bytes.ofText (bearerScheme ++ " " ++ token.exposed))).map
    HeaderValue.asSensitive

/-- What is shown in the place of a credential. -/
def redactedCredential : HeaderValue :=
  ⟨Bytes.ofText (bearerScheme ++ " <redacted>"), false, by decide +kernel⟩

/-- The deadline of a request, given that of the client and the time that has passed. -/
def deadline (limit elapsed : Duration) : Option Duration → Option Duration
  | some own => some own
  | none => if limit.isZero then none else some (limit.sub elapsed)

namespace Client

variable {σ : Type} (c : Client σ)

def prepared (credential : HeaderValue) (elapsed : Duration) (r : Request) : Request :=
  { r with
    headers := r.headers.set .authorization credential
    timeout := deadline c.timeout elapsed r.timeout }

/-- Milestones are reached only under a hook. -/
def reach (ms : List Milestone) : List Signal :=
  if c.settings.trace.isSome then ms.map .reached else []

/-- Method and address of a request. -/
def about (r : Request) : List (String × String) :=
  [("method", r.method), ("url", r.url.text)]

/-- The signals of a request without a token. -/
def refusal (r : Request) (e : Error) : List Signal :=
  [.counted .tokenFailure,
    .logged ⟨.warn, "Token unavailable; request not sent.",
      [("url", r.url.text), ("error", e.message)]⟩]

/-- The signals before a request is handed to the transport. -/
def departure (r : Request) : List Signal :=
  c.reach [.getConnection r.url.hostPort,
    .wroteHeaders r.method r.url (r.headers.set .authorization redactedCredential)]
    ++ [.logged ⟨.debug, "Dispatching request.", about r⟩]

/-- The signals after the transport is done with a request. -/
def arrival (r : Request) (e : Exchange) : List Signal :=
  match e.reply with
  | .ok response =>
    c.reach [.gotConnection response.remote response.version
        (!e.milestones.contains .dialStart), .gotFirstByte response.status]
      ++ [.counted .response,
        .logged ⟨.debug, "Response received.",
          about r ++ [("status", response.status.repr)]⟩]
  | .error failure =>
    c.reach [.requestFailed failure.message]
      ++ [.counted .transportFailure,
        .logged ⟨.warn, "Request failed.", about r ++ [("error", failure.message)]⟩]

/-- Executes a request with the token that its provider gave after some time. -/
def execute (token : Except Error Token.Secret) (elapsed : Duration) (r : Request) (s : σ) :
    Execution σ :=
  match token with
  | .error e => ⟨refusal r e, .error e, s⟩
  | .ok token =>
    match credential? token with
    | none => ⟨[], .error (.request .invalidHeader), s⟩
    | some credential =>
      let r := c.prepared credential elapsed r
      let (exchange, s) := c.transport.execute r s
      ⟨c.departure r ++ c.reach exchange.milestones ++ c.arrival r exchange,
        exchange.reply.mapError .request, s⟩

end Client

end BearerAuth
