import BearerAuth.Client.Options
import BearerAuth.Url.Parse

/-!
# Building clients

A client is built from options and a source of transports. The source is asked only if no option
has given a transport (`ClientBuilder.build`). Without an option for it, the deadline of requests
that have none is that of the transport.
-/

namespace BearerAuth

/-- What a client is built from. -/
structure ClientBuilder (σ : Type) where
  baseUrl : Url
  options : List (ClientOption σ)

/-- A client that gives every request a credential. -/
structure Client (σ : Type) where
  baseUrl : Url
  transport : Transport σ
  /-- The deadline of requests that have none; zero for none. -/
  timeout : Time.Duration
  settings : Settings σ

/-- Where a transport comes from, given what has come from there before. -/
abbrev TransportSource (σ ρ : Type) := ρ → Except Error (Transport σ) × ρ

/-- What comes of building a client. -/
structure Construction (σ ρ : Type) where
  client : Except Error (Client σ)
  source : ρ
  receipts : List Receipt

namespace ClientBuilder

variable {σ ρ : Type}

/-- The settings after all options have run. -/
def settings (b : ClientBuilder σ) : Settings σ :=
  ClientOption.applyAll .initial b.options

/-- The client that dispatches through a transport. -/
def clientOver (b : ClientBuilder σ) (t : Transport σ) : Client σ :=
  ⟨b.baseUrl, t, b.settings.timeout.getD t.httpTimeout, b.settings⟩

/-- What is logged when a client is built. -/
def constructed (c : Client σ) : Record :=
  ⟨.debug, "Client constructed.",
    [("base_url", c.baseUrl.text), ("development", Text.flag c.settings.development),
      ("timeout", c.timeout.shown)]⟩

def build (b : ClientBuilder σ) (take : TransportSource σ ρ) (source : ρ) : Construction σ ρ :=
  let through (t : Transport σ) (source : ρ) : Construction σ ρ :=
    let c := b.clientOver t
    ⟨.ok c, source, c.settings.logger.receive (constructed c)⟩
  match b.settings.transport with
  | some t => through t source
  | none =>
    match take source with
    | (.ok t, source) => through t source
    | (.error e, source) => ⟨.error e, source, []⟩

def shown (b : ClientBuilder σ) : String :=
  Text.composed "AuthenticatingClientBuilder"
    [("base_url", Text.quoted b.baseUrl.text),
      ("options", Text.listed (b.options.map ClientOption.shown))]

end ClientBuilder

namespace Client

variable {σ : Type}

/-- A request for a path below the base. -/
def request (c : Client σ) (method path : String) : Except Error Http.Request :=
  match c.baseUrl.join path with
  | .ok url => .ok ⟨method, url, .empty, none, []⟩
  | .error e => .error (.request (.invalidUrl e))

def shown (c : Client σ) : String :=
  Text.composed "AuthenticatingClient"
    [("base_url", Text.quoted c.baseUrl.text), ("timeout", c.timeout.shown),
      ("settings", c.settings.shown)]

end Client

end BearerAuth
