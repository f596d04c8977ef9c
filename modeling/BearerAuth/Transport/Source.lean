import BearerAuth.Transport.Pooled

/-!
# Sources of transports

A client takes its transport from a source. Each client of a fresh source gets a transport of its
own (`takeFresh`); the clients of a shared source get the one that is built for the first of them
(`takeShared`). If that one could not be built, none of them gets any.
-/

namespace BearerAuth.Transport

/-- What transports are built from, and how. -/
structure Source where
  config : Config
  builder : Builder
  deriving DecidableEq, Repr

/-- What has been built so far. -/
structure Source.State where
  count : Nat
  /-- What came of the one build of a shared source. -/
  first : Option (Except TransportError Pooled)

namespace Source

/-- Nothing is built yet. -/
def State.initial : State :=
  ⟨0, none⟩

/-- Whether the one build of a shared source is over. -/
def State.isInitialized (s : State) : Bool :=
  s.first.isSome

/-- Takes a transport of one's own. -/
def takeFresh (source : Source) (s : State) : Except TransportError Pooled × State :=
  match source.builder.build source.config s.count with
  | .ok built => (.ok built.transport, { s with count := s.count + 1 })
  | .error e => (.error e, s)

/-- The outcome of the one build, as each client learns it. -/
def shared : Except TransportError Pooled → Except TransportError Pooled
  | .ok transport => .ok transport
  | .error e => .error (.shared e)

/-- Takes the transport that all share. -/
def takeShared (source : Source) (s : State) : Except TransportError Pooled × State :=
  match s.first with
  | some first => (shared first, s)
  | none =>
    let (first, s) := source.takeFresh s
    (shared first, { s with first := some first })

end Source

end BearerAuth.Transport
