import BearerAuth.Observe.Record
import BearerAuth.Time.Instant
import BearerAuth.Token.Compact
import BearerAuth.Token.Secret

/-!
# Caching token providers

A provider signs tokens for one key and keeps the last one until it expires. A call looks at the
kept token (`Provider.lookup`); only if there is none that is valid does it enter the exclusive
section (`Provider.renew`), where it looks again before it signs. What it reports, it reports after
that section (`Provider.report`). A call that fails leaves the kept token as it was.
-/

namespace BearerAuth.Token

open Time

/-- A token and the instants that bound its validity. -/
structure CachedToken where
  token : Secret
  issuedAt : Instant
  /-- From this instant on the token is not handed out. -/
  expiresAt : Instant
  deriving DecidableEq

namespace CachedToken

def isValidAt (c : CachedToken) (t : Instant) : Bool :=
  t.isBefore c.expiresAt

/-- Whether two are the same, at whatever offsets their instants are given. -/
def isSame (c d : CachedToken) : Bool :=
  c.token = d.token && c.issuedAt.isSame d.issuedAt && c.expiresAt.isSame d.expiresAt

def shown (c : CachedToken) : String :=
  Text.composed "CachedToken"
    [("token", c.token.shownNamed), ("issued_at", c.issuedAt.shown),
      ("expires_at", c.expiresAt.shown)]

end CachedToken

/-- What tokens a provider makes. -/
structure Provider (σ : Type) where
  keyId : String
  issuer : String
  ttl : Span
  signer : Signer σ

/-- How long tokens are valid where nothing else is asked for. -/
def defaultTtl : Span := .ofMinutes 30

/-- What a provider keeps, and the state of its signer. -/
structure Provider.State (σ : Type) where
  slot : Option CachedToken
  signer : σ

/-- How a call ends. -/
inductive Answer
  /-- The kept token was valid. -/
  | cached (token : Secret)
  /-- A new token was signed and kept. -/
  | minted (c : CachedToken)
  | failed (e : Error)
  /-- A token was signed whose expiry is beyond the range of dates. -/
  | outOfRange

namespace Answer

/-- The token that a caller gets. -/
def token? : Answer → Option Secret
  | cached token => some token
  | minted c => some c.token
  | failed _ | outOfRange => none

/-- The message of the abnormal end of a call. -/
def outOfRangeMessage : String := "resulting value is out of range"

end Answer

namespace Provider

variable {σ : Type} (p : Provider σ)

/-- The kept token, if it is valid. -/
def lookup (slot : Option CachedToken) (now : Instant) : Option Secret :=
  (slot.filter (·.isValidAt now)).map (·.token)

def header : Header :=
  .es256 p.keyId

def payload (now : Instant) : Payload :=
  ⟨p.issuer, Int64.ofInt now.unixSeconds⟩

/-- Signs a new token. Its expiry is found only after the signer was called. -/
def mint (now : Instant) (state : σ) : Answer × σ :=
  match encode p.signer p.header.toJson (p.payload now).toJson state with
  | (.error e, state) => (.failed e, state)
  | (.ok text, state) =>
    match now.add? p.ttl with
    | some expiresAt => (.minted ⟨⟨String.ofList text⟩, now, expiresAt⟩, state)
    | none => (.outOfRange, state)

def kept (slot : Option CachedToken) : Answer → Option CachedToken
  | .minted c => some c
  | _ => slot

/-- The exclusive section of a call. -/
def renew (now : Instant) (state : State σ) : Answer × State σ :=
  match lookup state.slot now with
  | some token => (.cached token, state)
  | none =>
    let (answer, signer) := p.mint now state.signer
    (answer, ⟨kept state.slot answer, signer⟩)

/-- What a call reports after the exclusive section. -/
def report : Answer → List Emission
  | .cached _ | .outOfRange => []
  | .minted c =>
    [.counted (.mint .success),
      .logged ⟨.info, "Token generated successfully.",
        [("key_id", p.keyId), ("expires_at", c.expiresAt.shown)]⟩]
  | .failed e =>
    [.counted (.mint .failure),
      .logged ⟨.warn, "Token signing failed.", [("key_id", p.keyId), ("error", e.message)]⟩]

/-- A call that no other interrupts. -/
def token (now : Instant) (state : State σ) : Answer × State σ :=
  match lookup state.slot now with
  | some token => (.cached token, state)
  | none => p.renew now state

def shown (state : State σ) : String :=
  Text.composed "CachingTokenProvider"
    [("key_id", Text.quoted p.keyId), ("issuer", Text.quoted p.issuer), ("ttl", p.ttl.shown),
      ("cached", Text.flag state.slot.isSome)]

end Provider

end BearerAuth.Token
