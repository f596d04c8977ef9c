import BearerAuth.Curve.Point

/-!
# Elliptic-curve signatures

A signature of the number `z` under the secret `d` is the pair `(r, s)` with `r` the first
coordinate of `k • G` and `s = (z + r d) / k`, both modulo the order of the base point. The
verifier holds only the public point `d • G`.
-/

namespace BearerAuth.Ecdsa

/-- The number that a digest stands for: its leftmost octets, as many as a scalar has. -/
def ofDigest (c : Curve) (digest : Bytes) : Nat :=
  Bytes.toNat (digest.take c.bytes)

/-- Signs `z` under the secret `d` with the one-time secret `k`. Fails in the cases, of negligible
chance, where a half of the signature would be zero. -/
def sign? (c : Curve) (d z k : Nat) : Option (Nat × Nat) := do
  let p ← c.multipleOfBase? k
  let r := p.x % c.order
  let s := (z + r * d) * c.inverse c.order k % c.order
  guard (r ≠ 0 ∧ s ≠ 0)
  return (r, s)

/-- Whether `(r, s)` signs `z` under the public point `q`. -/
def verify (c : Curve) (q : Curve.Point) (z r s : Nat) : Bool :=
  if 0 < r ∧ r < c.order ∧ 0 < s ∧ s < c.order then
    let w := c.inverse c.order s
    let fromBase := Curve.Triple.multiply c.prime (z * w % c.order) c.generator c.bits .infinity
    let fromKey := Curve.Triple.multiply c.prime (r * w % c.order) ⟨q.x, q.y, 1⟩ c.bits .infinity
    match c.toPoint? (Curve.Triple.add c.prime fromBase fromKey) with
    | some p => p.x % c.order = r
    | none => false
  else false

end BearerAuth.Ecdsa
