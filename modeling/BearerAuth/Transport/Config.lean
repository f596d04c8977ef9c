import BearerAuth.Error
import BearerAuth.Text.Composed
import BearerAuth.Time.Duration
import BearerAuth.Transport.Certificate

/-!
# Transport configuration

A configuration comes from the default one by settings, each of which covers one or two fields
(`Config.set`). It is at fault if the idle connections to a host may outnumber all connections to
it, or if a length of time that keeps HTTP/2 connections alive is zero.
-/

namespace BearerAuth.Transport

open Time

/-- The lowest version of the handshake that is accepted. -/
inductive TlsVersion
  | v1_2
  | v1_3
  deriving DecidableEq, Repr

def TlsVersion.identifier : TlsVersion → String
  | v1_2 => "Tls1_2"
  | v1_3 => "Tls1_3"

/-- Whom to trust. -/
structure TlsPolicy where
  minVersion : TlsVersion
  /-- Trust anchors besides the built-in ones. -/
  roots : List Certificates
  builtInRoots : Bool
  acceptInvalidCerts : Bool
  deriving DecidableEq, Repr

namespace TlsPolicy

/-- The built-in roots are trusted, and the latest version is asked for. -/
def default : TlsPolicy :=
  ⟨.v1_3, [], true, false⟩

def shown (p : TlsPolicy) : String :=
  Text.composed "TlsPolicy"
    [("min_version", p.minVersion.identifier),
      ("root_certificates", Text.listed (p.roots.map fun _ => "Certificate")),
      ("built_in_roots", Text.flag p.builtInRoots),
      ("accept_invalid_certs", Text.flag p.acceptInvalidCerts)]

end TlsPolicy

/-- What a transport is built from. -/
structure Config where
  dialTimeout : Duration
  keepAlive : Duration
  idleConnTimeout : Duration
  /-- How many requests to one host may be on their way, or zero for any number. -/
  maxConnsPerHost : Nat
  maxIdleConnsPerHost : Nat
  /-- How long a connection is silent before it is probed. -/
  readIdleTimeout : Duration
  /-- How long a probe may remain unanswered. -/
  pingTimeout : Duration
  /-- The deadline of requests that have none, or zero. -/
  httpTimeout : Duration
  tls : TlsPolicy
  http2 : Bool
  deriving DecidableEq, Repr

/-- A change of a configuration. -/
inductive Setting
  | dialTimeout (d : Duration)
  | keepAlive (d : Duration)
  | idleConnTimeout (d : Duration)
  | poolLimits (maxConns maxIdle : Nat)
  | liveness (readIdle ping : Duration)
  | httpTimeout (d : Duration)
  | tls (p : TlsPolicy)
  | http2 (enabled : Bool)
  deriving DecidableEq, Repr

/-- The deadline of requests to transports that say nothing else. -/
def defaultHttpTimeout : Duration := .ofSeconds 60

namespace Config

/-- The configuration before any settings. -/
def default : Config where
  dialTimeout := .ofSeconds 30
  keepAlive := .ofSeconds 30
  idleConnTimeout := .ofSeconds 90
  maxConnsPerHost := 30
  maxIdleConnsPerHost := 30
  readIdleTimeout := .ofSeconds 15
  pingTimeout := .ofSeconds 15
  httpTimeout := defaultHttpTimeout
  tls := .default
  http2 := true

/-- Makes a change. -/
def set (c : Config) : Setting → Config
  | .dialTimeout d => { c with dialTimeout := d }
  | .keepAlive d => { c with keepAlive := d }
  | .idleConnTimeout d => { c with idleConnTimeout := d }
  | .poolLimits maxConns maxIdle =>
    { c with maxConnsPerHost := maxConns, maxIdleConnsPerHost := maxIdle }
  | .liveness readIdle ping => { c with readIdleTimeout := readIdle, pingTimeout := ping }
  | .httpTimeout d => { c with httpTimeout := d }
  | .tls p => { c with tls := p }
  | .http2 enabled => { c with http2 := enabled }

/-- Changes the default configuration. -/
def ofSettings (settings : List Setting) : Config :=
  settings.foldl set default

/-- The first fault, if there is one. -/
def fault? (c : Config) : Option TransportError :=
  if c.maxConnsPerHost ≠ 0 ∧ c.maxConnsPerHost < c.maxIdleConnsPerHost then
    some (.invalidPoolLimits c.maxIdleConnsPerHost c.maxConnsPerHost)
  else if c.http2 ∧ c.readIdleTimeout.isZero then some (.invalidLiveness "read_idle_timeout")
  else if c.http2 ∧ c.pingTimeout.isZero then some (.invalidLiveness "ping_timeout")
  else none

def shown (c : Config) : String :=
  Text.composed "TransportConfig"
    [("dial_timeout", c.dialTimeout.shown), ("keep_alive", c.keepAlive.shown),
      ("idle_conn_timeout", c.idleConnTimeout.shown),
      ("max_conns_per_host", c.maxConnsPerHost.repr),
      ("max_idle_conns_per_host", c.maxIdleConnsPerHost.repr),
      ("read_idle_timeout", c.readIdleTimeout.shown), ("ping_timeout", c.pingTimeout.shown),
      ("http_timeout", c.httpTimeout.shown), ("tls", c.tls.shown), ("http2", Text.flag c.http2)]

end Config

end BearerAuth.Transport
