import BearerAuth.Base64
import BearerAuth.Signing.Signer
import BearerAuth.Token.Claims

/-!
# Compact tokens

A compact token is three segments with points between them: header, payload and signature, each in
unpadded base64 of the alphabet for URLs. The signature is one of the text before the last point.
-/

namespace BearerAuth.Token

/-- What the three segments of a token hold. -/
structure Segments where
  header : Bytes
  payload : Bytes
  signature : Bytes
  deriving DecidableEq, Repr

def segment (b : Bytes) : List Char :=
  Base64.encode .url b

def signingInput (header payload : Bytes) : List Char :=
  segment header ++ '.' :: segment payload

namespace Segments

def compact (s : Segments) : List Char :=
  signingInput s.header s.payload ++ '.' :: segment s.signature

/-- The parts of a text between its points. -/
def parts (text : List Char) : List (List Char) :=
  text.splitOn '.'

/-- The segments of a token; none unless there are exactly three, each readable. The signature is
not checked. -/
def read? (token : List Char) : Option Segments :=
  match parts token with
  | [header, payload, signature] => do
    let header ← Base64.decode .url header
    let payload ← Base64.decode .url payload
    let signature ← Base64.decode .url signature
    return ⟨header, payload, signature⟩
  | _ => none

end Segments

/-- The octets of a text of ASCII characters. -/
def octets (text : List Char) : Bytes :=
  text.map fun c => UInt8.ofNat c.toNat

variable {σ : Type}

/-- Writes header and payload, has them signed, and puts the token together. The signer is called
only if both are written. -/
def encode (signer : Signer σ) (header payload : Json.Value) (state : σ) :
    Except Error (List Char) × σ :=
  match header.write with
  | .error e => (.error (.encoding (.header e)), state)
  | .ok header =>
    match payload.write with
    | .error e => (.error (.encoding (.payload e)), state)
    | .ok payload =>
      match signer.sign (octets (signingInput header payload)) state with
      | (.error e, state) => (.error (.signing e), state)
      | (.ok signature, state) => (.ok (Segments.compact ⟨header, payload, signature⟩), state)

end BearerAuth.Token
