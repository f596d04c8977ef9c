import BearerAuth.Curve.Point

/-!
# Private keys

A private key is a curve and a secret scalar between zero and the order of the curve, both
excluded. Its public point is the multiple of the base point by the scalar.
-/

namespace BearerAuth

/-- A private signing key. -/
structure PrivateKey where
  curve : Curve
  scalar : Nat
  scalar_pos : 0 < scalar
  scalar_lt : scalar < curve.order

namespace PrivateKey

/-- The key with the given scalar, if the curve has one. -/
def ofScalar? (curve : Curve) (scalar : Nat) : Option PrivateKey :=
  if h : 0 < scalar ∧ scalar < curve.order then some ⟨curve, scalar, h.1, h.2⟩ else none

/-- The scalar in as many octets as the order of the curve takes. -/
def scalarBytes (k : PrivateKey) : Bytes :=
  Bytes.ofNat k.curve.bytes k.scalar

def publicPoint (k : PrivateKey) : Curve.Point :=
  (k.curve.multipleOfBase? k.scalar).getD ⟨0, 0⟩

/-- The public point, uncompressed. -/
def publicBytes (k : PrivateKey) : Bytes :=
  k.publicPoint.uncompressed k.curve

/-- How a key is shown: by its curve alone. -/
def shown (k : PrivateKey) : String :=
  "KeyMaterial(" ++ k.curve.identifier ++ ", \"<redacted>\")"

end PrivateKey

end BearerAuth
