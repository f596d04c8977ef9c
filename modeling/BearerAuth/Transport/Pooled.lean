import BearerAuth.Transport.Basic
import BearerAuth.Transport.Config
import BearerAuth.Transport.HostLimits

/-!
# Pooled transports

A pooled transport is built from a configuration that is not at fault, and keeps a copy of it. The
settings that its connections got are told when it is built. It carries requests by HTTP alone, over
the network, and refuses the others before anything is dialed, as well as those for a URL that
cannot stand in a request. Until its response begins, a request comes under the limits of the place
where it goes (`Pooled.carry`).
-/

namespace BearerAuth.Transport

open Time Http

/-- Settings of all connections. -/
structure Http1Layer where
  dialTimeout : Duration
  keepAlive : Duration
  idleConnTimeout : Duration
  maxConnsPerHost : Nat
  maxIdleConnsPerHost : Nat
  deriving DecidableEq, Repr

/-- Settings of HTTP/2 connections. -/
structure Http2Layer where
  readIdleTimeout : Duration
  pingTimeout : Duration
  deriving DecidableEq, Repr

/-- What the connections of a transport are made by. -/
structure Connections where
  connectTimeout : Duration
  keepAlive : Duration
  idleTimeout : Duration
  maxIdlePerHost : Nat
  tls : TlsPolicy
  /-- The deadline of every request, if there is one. -/
  timeout : Option Duration
  /-- How HTTP/2 connections are kept alive, if there may be any. -/
  http2 : Option Http2Layer
  deriving DecidableEq, Repr

/-- Why no connections can be made, if none can. -/
def Connections.fault? (q : Connections) : Option Cause :=
  if q.tls.roots.all (·.areValid) then none else some .undescribed

namespace Config

/-- The settings of all connections. -/
def http1Layer (c : Config) : Http1Layer :=
  ⟨c.dialTimeout, c.keepAlive, c.idleConnTimeout, c.maxConnsPerHost, c.maxIdleConnsPerHost⟩

/-- The settings of HTTP/2 connections, if there may be any. -/
def http2Layer (c : Config) : Option Http2Layer :=
  if c.http2 then some ⟨c.readIdleTimeout, c.pingTimeout⟩ else none

/-- What the connections are made by. A deadline of zero is none. -/
def connections (c : Config) : Connections where
  connectTimeout := c.dialTimeout
  keepAlive := c.keepAlive
  idleTimeout := c.idleConnTimeout
  maxIdlePerHost := c.maxIdleConnsPerHost
  tls := c.tls
  timeout := if c.httpTimeout.isZero then none else some c.httpTimeout
  http2 := c.http2Layer

/-- Why no connections can be made, if none can. -/
def clientFault? (c : Config) : Option TransportError :=
  c.connections.fault?.map .clientBuild

end Config

/-- A transport with a pool of connections. -/
structure Pooled where
  /-- How many were built before it. -/
  number : Nat
  config : Config
  logger : Logger
  deriving DecidableEq, Repr

namespace Pooled

/-- Characters of the names of hosts that cannot stand in a request. -/
def unsendable : List Char := ['"', '\x60', '\x7b', '\x7d']

/-- How long the text of a URL in a request can be. -/
def longestUrl : Nat := 65534

/-- Whether requests for a URL are refused. -/
def refuses (url : Url) : Bool :=
  (url.scheme != "http".toList && url.scheme != "https".toList)
    || url.host.text.any unsendable.contains || longestUrl < url.text.length

/-- What is logged when the pool is made anew. -/
def closed (p : Pooled) : Record :=
  match p.config.clientFault? with
  | none => ⟨.debug, "Idle connections closed.", []⟩
  | some e =>
    ⟨.warn, "Failed to rebuild the connection pool; keeping the old one.", [("error", e.message)]⟩

def toTransport {σ : Type} (p : Pooled) (network : Request → σ → Exchange × σ) : Transport σ where
  execute r s :=
    if refuses r.url then (⟨[], .error (.network .undescribed)⟩, s) else network r s
  httpTimeout := p.config.httpTimeout
  closeIdle s := (p.logger.receive p.closed, s)

/-- The limits before any request has come. -/
def limits (p : Pooled) : HostLimits :=
  .new p.config.maxConnsPerHost

def shown (p : Pooled) : String :=
  Text.composed "ReqwestTransport" [("config", p.config.shown)]

end Pooled

/-- What happens to the requests that a transport carries. -/
inductive CarryStep
  /-- A request comes that is for a URL. -/
  | enter (url : Url)
  | move (ticket : Nat) (m : Move)
  deriving DecidableEq, Repr

namespace CarryStep

/-- A request asks for a permit of the place where it goes. -/
def limitStep : CarryStep → LimitStep
  | enter url => .enter url.hostPort
  | move i m => .move i m

def url? : CarryStep → Option Url
  | enter url => some url
  | move .. => none

/-- The URLs of the requests, in the order in which they come. -/
def urls (steps : List CarryStep) : List Url :=
  steps.filterMap url?

end CarryStep

/-- The limits after some steps of the requests. -/
def Pooled.carry (p : Pooled) (steps : List CarryStep) : HostLimits :=
  p.limits.run (steps.map CarryStep.limitStep)

/-- What comes of building a transport. -/
structure Built where
  http1 : Http1Layer
  http2 : Option Http2Layer
  tls : TlsPolicy
  transport : Pooled
  deriving DecidableEq, Repr

/-- Builds transports whose records go to a logger. -/
structure Builder where
  logger : Logger
  deriving DecidableEq, Repr

namespace Builder

/-- Builds a transport after a number of others, given why connections cannot be made. -/
def buildOver (refuse? : Connections → Option Cause) (b : Builder) (c : Config) (number : Nat) :
    Except TransportError Built :=
  match c.fault?, refuse? c.connections with
  | some e, _ => .error e
  | none, some cause => .error (.clientBuild cause)
  | none, none => .ok ⟨c.http1Layer, c.http2Layer, c.tls, ⟨number, c, b.logger⟩⟩

/-- Builds a transport after a number of others. -/
def build (b : Builder) (c : Config) (number : Nat) : Except TransportError Built :=
  b.buildOver Connections.fault? c number

end Builder

end BearerAuth.Transport
