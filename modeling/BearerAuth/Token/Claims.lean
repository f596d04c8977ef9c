import BearerAuth.Json.Record
import BearerAuth.Json.Value

/-!
# Headers and payloads

A header names the algorithm and the key, a payload the issuer and the second of issue. A payload
leaves out an empty issuer and the second zero when it is written, and has these when they are not
there to be read. A header needs both of its fields.
-/

namespace BearerAuth.Token

open Json Reader

/-- Which algorithm and key have signed a token. -/
structure Header where
  alg : String
  kid : String
  deriving DecidableEq, Repr

namespace Header

/-- Elliptic-curve signatures on P-256 over SHA-256. -/
def es256Name : String := "ES256"

/-- The header of a token that a P-256 key has signed. -/
def es256 (kid : String) : Header := ⟨es256Name, kid⟩

def toJson (h : Header) : Value :=
  .object [(.text "alg", .string h.alg), (.text "kid", .string h.kid)]

/-- Reads one member, after its key. -/
def readMember (seen : Option String × Option String) (key : String) :
    Reader (Option String × Option String) := do
  if key = "alg" then return (← field "alg" seen.1 readString, seen.2)
  else if key = "kid" then return (seen.1, ← field "kid" seen.2 readString)
  else
    unknownMember
    return seen

def fromObject : Reader Header := do
  let (alg, kid) ← members readMember (none, none)
  let alg ← required "alg" alg
  let kid ← required "kid" kid
  return ⟨alg, kid⟩

def fromList : Reader Header := do
  match ← element true readString with
  | none => refuse (.invalidLength 0 "struct Header with 2 elements")
  | some alg =>
    match ← element false readString with
    | none => refuse (.invalidLength 1 "struct Header with 2 elements")
    | some kid => return ⟨alg, kid⟩

def read : Reader Header :=
  record "struct Header" fromList fromObject

end Header

/-- Who has issued a token, and when. -/
structure Payload where
  iss : String
  /-- Seconds since the Unix epoch. -/
  iat : Int64
  deriving DecidableEq, Repr

namespace Payload

/-- No issuer, and the second zero. -/
def empty : Payload := ⟨"", 0⟩

def toJson (p : Payload) : Value :=
  .object ((if p.iss = "" then [] else [(.text "iss", .string p.iss)])
    ++ (if p.iat = 0 then [] else [(.text "iat", .integer p.iat.toInt)]))

/-- Reads one member, after its key. -/
def readMember (seen : Option String × Option Int64) (key : String) :
    Reader (Option String × Option Int64) := do
  if key = "iss" then return (← field "iss" seen.1 readString, seen.2)
  else if key = "iat" then return (seen.1, ← field "iat" seen.2 readInt64)
  else
    unknownMember
    return seen

def fromObject : Reader Payload := do
  let (iss, iat) ← members readMember (none, none)
  return ⟨iss.getD "", iat.getD 0⟩

def fromList : Reader Payload := do
  match ← element true readString with
  | none => return empty
  | some iss =>
    let iat ← element false readInt64
    return ⟨iss, iat.getD 0⟩

def read : Reader Payload :=
  record "struct Payload" fromList fromObject

end Payload

end BearerAuth.Token
