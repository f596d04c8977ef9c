import BearerAuth.Bytes
import BearerAuth.Curve.Basic

/-!
# Points of a curve

Addition and doubling work on projective triples, so that only the way back to coordinates needs
an inverse. A multiple `k • q` is taken by doubling and adding along the bits of `k`.

The octet form of a point is a tag and its coordinates (`Point.uncompressed`), or a tag that holds
the parity of `y` and the one coordinate `x` (`Point.compressed`).
-/

namespace BearerAuth.Curve

/-- `b ^ e` modulo `m`, over the lowest `bits` bits of `e`. -/
def powMod (m b : Nat) : (bits : Nat) → (e : Nat) → (acc : Nat) → Nat
  | 0, _, acc => acc
  | bits + 1, e, acc =>
    powMod m (b * b % m) bits (e / 2) (if e % 2 = 1 then acc * b % m else acc)

/-- The inverse modulo a prime of a number that the prime does not divide. -/
def inverse (c : Curve) (m x : Nat) : Nat :=
  powMod m (x % m) c.bits (m - 2) 1

/-- `a - b` modulo `m`, for `b ≤ m`. -/
def subMod (m a b : Nat) : Nat :=
  (a + m - b) % m

/-- The triple `(x, y, z)` stands for the point `(x / z², y / z³)`, and for the point at infinity
when `z` is zero. -/
structure Triple where
  (x y z : Nat)

namespace Triple

def infinity : Triple := ⟨1, 1, 0⟩

/-- Twice a point. -/
def double (m : Nat) (p : Triple) : Triple :=
  let zz := p.z * p.z % m
  let yy := p.y * p.y % m
  let s := 4 * p.x * yy % m
  let t := 3 * subMod m p.x zz * (p.x + zz) % m
  let x := subMod m (t * t) (2 * s % m)
  let y := subMod m (t * subMod m s x) (8 * yy * yy % m)
  ⟨x, y, 2 * p.y * p.z % m⟩

/-- The sum of two points. -/
def add (m : Nat) (p q : Triple) : Triple :=
  if p.z = 0 then q
  else if q.z = 0 then p
  else
    let pzz := p.z * p.z % m
    let qzz := q.z * q.z % m
    let u := p.x * qzz % m
    let v := p.y * (qzz * q.z % m) % m
    let h := subMod m (q.x * pzz % m) u
    let r := subMod m (q.y * (pzz * p.z % m) % m) v
    if h = 0 then if r = 0 then double m p else infinity
    else
      let hh := h * h % m
      let hhh := h * hh % m
      let uhh := u * hh % m
      let x := subMod m (r * r) ((hhh + 2 * uhh) % m)
      ⟨x, subMod m (r * subMod m uhh x) (v * hhh % m), p.z * q.z % m * h % m⟩

/-- `k • q`, over the lowest `bits` bits of `k` from the highest of them down. -/
def multiply (m k : Nat) (q : Triple) : (bits : Nat) → (acc : Triple) → Triple
  | 0, acc => acc
  | bits + 1, acc =>
    let twice := double m acc
    multiply m k q bits (if k.testBit bits then add m twice q else twice)

end Triple

/-- A point other than infinity, by its coordinates. -/
structure Point where
  (x y : Nat)
  deriving DecidableEq, Repr

/-- The coordinates of a triple, unless it is the point at infinity. -/
def toPoint? (c : Curve) (t : Triple) : Option Point :=
  if t.z = 0 then none
  else
    let i := c.inverse c.prime t.z
    let ii := i * i % c.prime
    some ⟨t.x * ii % c.prime, t.y * (ii * i % c.prime) % c.prime⟩

/-- The base point. -/
def generator (c : Curve) : Triple :=
  ⟨c.base.1, c.base.2, 1⟩

/-- The point at infinity has no coordinates; every other multiple of the base point has. -/
def multipleOfBase? (c : Curve) (k : Nat) : Option Point :=
  c.toPoint? (Triple.multiply c.prime k c.generator c.bits .infinity)

/-- A point as the tag 4 and both coordinates. -/
def Point.uncompressed (c : Curve) (p : Point) : Bytes :=
  4 :: (Bytes.ofNat c.bytes p.x ++ Bytes.ofNat c.bytes p.y)

/-- A point as the tag 2 or 3, by the parity of `y`, and the coordinate `x`. -/
def Point.compressed (c : Curve) (p : Point) : Bytes :=
  (if p.y % 2 = 0 then 2 else 3) :: Bytes.ofNat c.bytes p.x

end BearerAuth.Curve
