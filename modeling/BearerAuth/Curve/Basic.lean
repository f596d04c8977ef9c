import BearerAuth.Bytes

/-!
# Named curves

The two prime-field curves that keys may lie on, with their domain parameters. Both have the
equation `y² = x³ - 3x + b` and a base point of prime order.
-/

namespace BearerAuth

/-- The curves that keys may lie on. -/
inductive Curve
  | p256
  | p384
  deriving DecidableEq, Repr

namespace Curve

/-- Size of the field, in bits. -/
def bits : Curve → Nat
  | p256 => 256
  | p384 => 384

/-- Size of a coordinate or scalar, in octets. -/
def bytes (c : Curve) : Nat :=
  c.bits / 8

/-- The curve's customary name. -/
def label : Curve → String
  | p256 => "P-256"
  | p384 => "P-384"

def identifier : Curve → String
  | p256 => "P256"
  | p384 => "P384"

def prime : Curve → Nat
  | p256 => 0xffffffff00000001000000000000000000000000ffffffffffffffffffffffff
  | p384 =>
    0xfffffffffffffffffffffffffffffffffffffffffffffffffffffffffffffffeffffffff0000000000000000ffffffff

/-- The constant term of the curve's equation. -/
def constant : Curve → Nat
  | p256 => 0x5ac635d8aa3a93e7b3ebbd55769886bc651d06b0cc53b0f63bce3c3e27d2604b
  | p384 =>
    0xb3312fa7e23ee7e4988e056be3f82d19181d9c6efe8141120314088f5013875ac656398d8a2ed19d2a85c8edd3ec2aef

/-- The coordinates of the base point. -/
def base : Curve → Nat × Nat
  | p256 =>
    (0x6b17d1f2e12c4247f8bce6e563a440f277037d812deb33a0f4a13945d898c296,
      0x4fe342e2fe1a7f9b8ee7eb4a7c0f9e162bce33576b315ececbb6406837bf51f5)
  | p384 =>
    (0xaa87ca22be8b05378eb1c71ef320ad746e1d3b628ba79b9859f741e082542a385502f25dbf55296c3a545e3872760ab7,
      0x3617de4a96262c6f5d9e98bf9292dc29f8f41dbd289a147ce9da3113b5f0b8c00a60b1ce1d7e819d7a431d7c90ea0e5f)

/-- The order of the base point, a prime. -/
def order : Curve → Nat
  | p256 => 0xffffffff00000000ffffffffffffffffbce6faada7179e84f3b9cac2fc632551
  | p384 =>
    0xffffffffffffffffffffffffffffffffffffffffffffffffc7634d81f4372ddf581a0db248b0a77aecec196accc52973

theorem order_lt (c : Curve) : c.order < Bytes.capacity c.bytes := by
  cases c <;> decide

end Curve

end BearerAuth
