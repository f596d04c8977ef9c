import BearerAuth.Transport.Basic

/-!
# Client settings

What options decide about a client: where its records and milestones go, what carries its requests,
and the deadline of those that have none.
-/

namespace BearerAuth

/-- What options decide. -/
structure Settings (σ : Type) where
  development : Bool
  logger : Logger
  /-- A transport instead of the one from the source. -/
  transport : Option (Transport σ)
  /-- A deadline instead of that of the transport; zero for none. -/
  timeout : Option Time.Duration
  trace : Option Hook

namespace Settings

variable {σ : Type}

/-- The settings before any option. -/
def initial : Settings σ :=
  ⟨false, .silent, none, none, none⟩

def shown (s : Settings σ) : String :=
  Text.composed "ClientSettings"
    [("development", Text.flag s.development),
      ("custom_transport", Text.flag s.transport.isSome),
      ("timeout", Text.optional Time.Duration.shown s.timeout),
      ("request_trace", Text.flag s.trace.isSome)]

end Settings

end BearerAuth
