import BearerAuth.Der.Oid
import BearerAuth.Key

/-!
# Private keys in distinguished encoding

The outer structure (`Info`) names the algorithm and carries the key body; the body of an
elliptic-curve key (`EcBody`) carries the scalar and perhaps the public point.
-/

namespace BearerAuth.Key

open Der Reader

/-- The algorithm of elliptic-curve keys. -/
def ecPublicKey : Oid := ⟨[0x2a, 0x86, 0x48, 0xce, 0x3d, 0x02, 0x01]⟩

def curveOid : Curve → Oid
  | .p256 => ⟨[0x2a, 0x86, 0x48, 0xce, 0x3d, 0x03, 0x01, 0x07]⟩
  | .p384 => ⟨[0x2b, 0x81, 0x04, 0x00, 0x22]⟩

/-- A private key of any algorithm. -/
structure Info where
  algorithm : Oid
  parameters : Option Element
  body : Bytes

namespace Info

/-- An algorithm's identifier and, perhaps, its parameters. -/
def readAlgorithm : Reader (Oid × Option Element) := do
  let oid ← Oid.read
  match ← peek with
  | none => return (oid, none)
  | some _ => return (oid, some (← element))

/-- The fields of the outer structure: the version, the algorithm, the body, and then a public key
exactly in version one, after which further fields are passed over. -/
def readFields : Reader Info := do
  let version ← smallNumber
  guard (version ≤ 1)
  let (algorithm, parameters) ← within 0x30 readAlgorithm
  let body ← contentOf 0x04
  let publicKey ← fieldOf 1 do wholeBits (← contentOf 0x81)
  guard ((version == 1) == publicKey.isSome)
  remainingFields ((← get).length + 1)
  return ⟨algorithm, parameters, body⟩

def read? (b : Bytes) : Option Info :=
  (within 0x30 readFields).all b

/-- The curve that the parameters name. -/
def curve? (i : Info) : Option Oid := do
  Oid.ofElement? (← i.parameters)

end Info

/-- The body of an elliptic-curve key. -/
structure EcBody where
  scalar : Bytes
  publicPoint : Option Bytes

namespace EcBody

/-- The fields of the body: version one, the scalar, perhaps the curve, and perhaps the public
point. -/
def readFields : Reader EcBody := do
  let version ← smallNumber
  guard (version = 1)
  let scalar ← contentOf 0x04
  let _ ← fieldOf 0 (within 0xa0 Oid.read)
  let publicPoint ← fieldOf 1 (within 0xa1 do wholeBits (← contentOf 0x03))
  return ⟨scalar, publicPoint⟩

/-- Reads the body of an elliptic-curve key. -/
def read? (b : Bytes) : Option EcBody :=
  (within 0x30 readFields).all b

/-- The key that a body holds: its scalar fits the curve, in at least twenty-four octets and at
most the width of the curve, and a public point, if there is one, is that of the scalar, in either
form. -/
def key? (curve : Curve) (e : EcBody) : Option PrivateKey := do
  guard (24 ≤ e.scalar.length ∧ e.scalar.length ≤ curve.bytes)
  let key ← PrivateKey.ofScalar? curve (Bytes.toNat e.scalar)
  match e.publicPoint with
  | none => return key
  | some q =>
    guard (q = key.publicBytes ∨ q = key.publicPoint.compressed curve)
    return key

end EcBody

end BearerAuth.Key
