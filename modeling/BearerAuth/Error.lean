import BearerAuth.Json.Value
import BearerAuth.Key.Load
import BearerAuth.Url.Error

/-!
# Errors

Every failure belongs to one of five families: loading a key, signing, encoding a token, building a
transport, and dispatching a request. An error has a message, and may have another failure as its
cause (`Error.hasCause`).
-/

namespace BearerAuth

/-- A failure outside of this library. -/
inductive Cause
  | described (text : String)
  /-- Its text is of no account. -/
  | undescribed
  deriving DecidableEq, Repr

/-- What went wrong, in words, if there are any. -/
def Cause.message : Cause → String
  | described text => text
  | undescribed => ""

/-- Why there is no signature. -/
inductive SigningError
  | missingKey
  | unsupportedCurve (curve : Curve) (bits : Nat)
  /-- The elliptic-curve operation failed. -/
  | crypto
  /-- The signer has reasons of its own. -/
  | other (message : String)
  deriving DecidableEq, Repr

/-- What went wrong, in words. -/
def SigningError.message : SigningError → String
  | missingKey => "Signer is missing its private key."
  | unsupportedCurve curve bits =>
    "Unsupported curve " ++ curve.label ++ ": expected P-256, got " ++ bits.repr ++ " bits."
  | crypto => "ECDSA signing failed."
  | other message => "Signer failed: " ++ message ++ "."

/-- Why a part of a token is not written. -/
inductive EncodingError
  | header (e : Json.WriteError)
  | payload (e : Json.WriteError)
  deriving DecidableEq, Repr

/-- What went wrong, in words. -/
def EncodingError.message : EncodingError → String
  | header _ => "Failed to serialize the token header to JSON."
  | payload _ => "Failed to serialize the token payload to JSON."

/-- Why there is no transport. -/
inductive TransportError
  | invalidPoolLimits (maxIdle maxConns : Nat)
  | invalidLiveness (field : String)
  | clientBuild (cause : Cause)
  /-- A transport that several clients share failed to build. -/
  | shared (e : TransportError)
  deriving DecidableEq, Inhabited, Repr

/-- What went wrong, in words. -/
def TransportError.message : TransportError → String
  | invalidPoolLimits maxIdle maxConns =>
    "Idle connection cap " ++ maxIdle.repr ++ " exceeds the per-host connection cap "
      ++ maxConns.repr ++ "."
  | invalidLiveness field => "HTTP/2 " ++ field ++ " must be greater than zero."
  | clientBuild _ => "HTTP client could not be constructed."
  | shared _ => "Shared transport failed to build."

/-- Whether another failure is the cause. -/
def TransportError.hasCause : TransportError → Bool
  | invalidPoolLimits .. | invalidLiveness _ => false
  | clientBuild _ | shared _ => true

/-- Why a request has no response. -/
inductive RequestError
  | network (cause : Cause)
  | invalidUrl (e : Url.Error)
  | invalidHeader
  deriving DecidableEq, Repr

/-- What went wrong, in words. -/
def RequestError.message : RequestError → String
  | network _ => "Network error occurred while dispatching the request."
  | invalidUrl _ => "Request URL is invalid."
  | invalidHeader => "Token cannot be used as an HTTP header value."

/-- All failures. -/
inductive Error
  | keyLoad (e : Key.LoadError)
  | signing (e : SigningError)
  | encoding (e : EncodingError)
  | transport (e : TransportError)
  | request (e : RequestError)
  deriving DecidableEq, Repr

namespace Error

/-- What went wrong, in words. -/
def message : Error → String
  | keyLoad e => e.message
  | signing e => e.message
  | encoding e => e.message
  | transport e => e.message
  | request e => e.message

/-- Whether another failure is the cause. -/
def hasCause : Error → Bool
  | keyLoad (.unreadable ..) | keyLoad (.malformed (some _)) | keyLoad .invalidBody => true
  | keyLoad _ => false
  | signing .crypto => true
  | signing _ => false
  | encoding _ => true
  | transport e => e.hasCause
  | request _ => true

end Error

end BearerAuth
