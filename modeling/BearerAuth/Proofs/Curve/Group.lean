import BearerAuth.Proofs.Curve.Primality
import Mathlib.AlgebraicGeometry.EllipticCurve.Affine.Point
import Mathlib.FieldTheory.Finite.Basic

/-!
# Triples and points

A triple stands for a point of the curve in the sense of its group (`Triple.Represents`), and what
is done with triples is done with the points that they stand for.
-/

namespace BearerAuth.Curve

open WeierstrassCurve

/-- The curve over its field. -/
def affine (c : Curve) : Affine (ZMod c.prime) :=
  ⟨0, 0, 0, -3, c.constant⟩

section Remainders

variable {m : Nat}

theorem cast_subMod {b : Nat} (h : b ≤ m) (a : Nat) : (subMod m a b : ZMod m) = a - b := by
  rw [subMod, ZMod.natCast_mod, Nat.cast_sub (Nat.le_add_left_of_le h), Nat.cast_add,
    ZMod.natCast_self, add_zero]

theorem cast_subMod_mod [NeZero m] (a b : Nat) : (subMod m a (b % m) : ZMod m) = a - b := by
  rw [cast_subMod (Nat.mod_lt b (NeZero.pos m)).le, ZMod.natCast_mod]

theorem cast_subMod_subMod [NeZero m] (a b d : Nat) :
    (subMod m a (subMod m b d) : ZMod m) = a - (subMod m b d : ZMod m) :=
  cast_subMod (Nat.mod_lt _ (NeZero.pos m)).le a

theorem cast_eq_zero_iff {n : Nat} (h : n < m) : (n : ZMod m) = 0 ↔ n = 0 := by
  rw [ZMod.natCast_eq_zero_iff]
  exact ⟨fun hdvd => Nat.eq_zero_of_dvd_of_lt hdvd h, fun hn => hn ▸ dvd_zero m⟩

end Remainders

section Affine

variable {c : Curve} {x y : ZMod c.prime}

theorem negY_affine : c.affine.negY x y = -y := by
  simp [affine, Affine.negY]

theorem addX_affine (x₁ x₂ ℓ : ZMod c.prime) : c.affine.addX x₁ x₂ ℓ = ℓ ^ 2 - x₁ - x₂ := by
  simp only [affine, Affine.addX]
  ring

theorem addY_affine (x₁ x₂ y₁ ℓ : ZMod c.prime) :
    c.affine.addY x₁ x₂ y₁ ℓ = ℓ * (x₁ - c.affine.addX x₁ x₂ ℓ) - y₁ := by
  rw [Affine.addY, negY_affine, Affine.negAddY]
  ring

theorem two_ne_zero (c : Curve) : (2 : ZMod c.prime) ≠ 0 :=
  mt (cast_eq_zero_iff (n := 2) (by cases c <;> decide)).1 (by decide)

variable [Fact c.prime.Prime]

theorem ne_negY_self (hy : y ≠ 0) : y ≠ c.affine.negY x y := by
  rw [negY_affine, ne_eq, eq_neg_iff_add_eq_zero, ← two_mul]
  exact mul_ne_zero (two_ne_zero c) hy

theorem slope_self (hy : y ≠ 0) : c.affine.slope x x y y * (2 * y) = 3 * x ^ 2 - 3 := by
  rw [Affine.slope_of_Y_ne rfl (ne_negY_self hy), negY_affine]
  rw [sub_neg_eq_add, ← two_mul, div_mul_cancel₀ _ (mul_ne_zero (two_ne_zero c) hy)]
  simp only [affine]
  ring

end Affine

namespace Triple

variable {c : Curve}

/-- A triple stands for a point: by the quotients of its coordinates, or for infinity. -/
inductive Represents : Triple → c.affine.Point → Prop
  | infinity {t : Triple} (hz : t.z = 0) : Represents t 0
  | finite {t : Triple} {x y : ZMod c.prime} {h : c.affine.Nonsingular x y} (hlt : t.z < c.prime)
    (hz : t.z ≠ 0) (hx : (t.x : ZMod c.prime) = x * t.z ^ 2)
    (hy : (t.y : ZMod c.prime) = y * t.z ^ 3) : Represents t (.some x y h)

section Formulas

variable [NeZero c.prime] (t u : Triple)

theorem cast_double :
    ((double c.prime t).x : ZMod c.prime)
        = (3 * (t.x - t.z ^ 2) * (t.x + t.z ^ 2)) ^ 2 - 8 * t.x * t.y ^ 2
      ∧ ((double c.prime t).y : ZMod c.prime)
        = 3 * (t.x - t.z ^ 2) * (t.x + t.z ^ 2) * (4 * t.x * t.y ^ 2 - (double c.prime t).x)
          - 8 * t.y ^ 4
      ∧ ((double c.prime t).z : ZMod c.prime) = 2 * t.y * t.z := by
  simp only [double, cast_subMod_mod, cast_subMod_subMod, ZMod.natCast_mod, Nat.cast_mul,
    Nat.cast_add, Nat.cast_ofNat]
  exact ⟨by ring, by ring, trivial⟩

/-- How far the first coordinates of two points are apart, on a common denominator. -/
def run (m : Nat) (t u : Triple) : Nat :=
  subMod m (u.x * (t.z * t.z % m) % m) (t.x * (u.z * u.z % m) % m)

/-- How far the second coordinates of two points are apart, on a common denominator. -/
def rise (m : Nat) (t u : Triple) : Nat :=
  subMod m (u.y * (t.z * t.z % m * t.z % m) % m) (t.y * (u.z * u.z % m * u.z % m) % m)

/-- The third point of the line through two points, mirrored. -/
def chord (m : Nat) (t u : Triple) : Triple :=
  let uhh := t.x * (u.z * u.z % m) % m * (run m t u * run m t u % m) % m
  let hhh := run m t u * (run m t u * run m t u % m) % m
  let x := subMod m (rise m t u * rise m t u) ((hhh + 2 * uhh) % m)
  ⟨x, subMod m (rise m t u * subMod m uhh x) (t.y * (u.z * u.z % m * u.z % m) % m * hhh % m),
    t.z * u.z % m * run m t u % m⟩

theorem add_eq (m : Nat) {t u : Triple} (ht : t.z ≠ 0) (hu : u.z ≠ 0) :
    add m t u = if run m t u = 0 then if rise m t u = 0 then double m t else infinity
      else chord m t u := by
  rw [add, if_neg ht, if_neg hu]
  rfl

theorem run_lt : run c.prime t u < c.prime :=
  Nat.mod_lt _ (NeZero.pos c.prime)

theorem rise_lt : rise c.prime t u < c.prime :=
  Nat.mod_lt _ (NeZero.pos c.prime)

theorem cast_run : (run c.prime t u : ZMod c.prime) = u.x * t.z ^ 2 - t.x * u.z ^ 2 := by
  simp only [run, cast_subMod_mod, ZMod.natCast_mod, Nat.cast_mul]
  ring

theorem cast_rise : (rise c.prime t u : ZMod c.prime) = u.y * t.z ^ 3 - t.y * u.z ^ 3 := by
  simp only [rise, cast_subMod_mod, ZMod.natCast_mod, Nat.cast_mul]
  ring

theorem cast_chord :
    ((chord c.prime t u).x : ZMod c.prime) = (rise c.prime t u) ^ 2 - (run c.prime t u) ^ 3
        - 2 * t.x * u.z ^ 2 * (run c.prime t u) ^ 2
      ∧ ((chord c.prime t u).y : ZMod c.prime)
        = rise c.prime t u * (t.x * u.z ^ 2 * (run c.prime t u) ^ 2 - (chord c.prime t u).x)
          - t.y * u.z ^ 3 * (run c.prime t u) ^ 3
      ∧ ((chord c.prime t u).z : ZMod c.prime) = t.z * u.z * run c.prime t u := by
  simp only [chord, cast_subMod_mod, cast_subMod_subMod, ZMod.natCast_mod, Nat.cast_mul,
    Nat.cast_add, Nat.cast_ofNat]
  exact ⟨by ring, by ring, trivial⟩

end Formulas

variable [Fact c.prime.Prime] {t u : Triple} {P Q : c.affine.Point}

theorem Represents.double (h : t.Represents P) : (double c.prime t).Represents (P + P) := by
  cases h with
  | infinity hz =>
    rw [zero_add]
    refine .infinity ?_
    show 2 * t.y * t.z % c.prime = 0
    rw [hz, mul_zero, Nat.zero_mod]
  | @finite x y h hlt hz hx hy =>
    have hz' : (t.z : ZMod c.prime) ≠ 0 := mt (cast_eq_zero_iff hlt).1 hz
    obtain ⟨hX, hY, hZ⟩ := cast_double (c := c) t
    have hlt' : (double c.prime t).z < c.prime := Nat.mod_lt _ (NeZero.pos c.prime)
    rw [hy] at hZ
    by_cases hy0 : y = 0
    · have hneg : y = c.affine.negY x y := by rw [negY_affine, hy0, neg_zero]
      rw [Affine.Point.add_self_of_Y_eq hneg]
      refine .infinity ((cast_eq_zero_iff hlt').1 ?_)
      rw [hZ, hy0]
      ring
    · have hslope := slope_self (x := x) hy0
      rw [Affine.Point.add_self_of_Y_ne (ne_negY_self hy0)]
      set ℓ := c.affine.slope x x y y
      have hnonzero : ((double c.prime t).z : ZMod c.prime) ≠ 0 := by
        rw [hZ]
        exact mul_ne_zero (mul_ne_zero (two_ne_zero c) (mul_ne_zero hy0 (pow_ne_zero 3 hz'))) hz'
      have hfirst : ((double c.prime t).x : ZMod c.prime)
          = c.affine.addX x x ℓ * (double c.prime t).z ^ 2 := by
        rw [hX, hZ, hx, hy, addX_affine]
        linear_combination (-((t.z : ZMod c.prime) ^ 8) * (2 * ℓ * y + (3 * x ^ 2 - 3))) * hslope
      refine .finite hlt' (fun h0 => hnonzero (by rw [h0, Nat.cast_zero])) hfirst ?_
      rw [hY, hfirst, hZ, hx, hy, addY_affine]
      linear_combination (-((t.z : ZMod c.prime) ^ 12) * 4 * y ^ 2
        * (x - c.affine.addX x x ℓ)) * hslope

section Sum

variable {x y x' y' : ZMod c.prime} {h : c.affine.Nonsingular x y}
  {h' : c.affine.Nonsingular x' y'}

/-- Two points with one first coordinate are the same or sum up to infinity. -/
theorem Represents.tangent (ht : t.Represents (Affine.Point.some x y h)) (hx : x = x')
    (hrise : rise c.prime t u = 0 ↔ y = y') :
    (if rise c.prime t u = 0 then Triple.double c.prime t else Triple.infinity).Represents
      (Affine.Point.some x y h + Affine.Point.some x' y' h') := by
  subst hx
  by_cases hy : y = y'
  · subst hy
    rw [if_pos (hrise.2 rfl)]
    exact ht.double
  · have hneg : y = c.affine.negY x y' := (Affine.Y_eq_of_X_eq h.1 h'.1 rfl).resolve_left hy
    rw [if_neg (mt hrise.1 hy), Affine.Point.add_of_Y_eq rfl hneg]
    exact .infinity rfl

theorem Represents.chord (hx : (t.x : ZMod c.prime) = x * t.z ^ 2)
    (hy : (t.y : ZMod c.prime) = y * t.z ^ 3) (hne : x ≠ x') (hz : (t.z : ZMod c.prime) ≠ 0)
    (hz' : (u.z : ZMod c.prime) ≠ 0)
    (hrun : (run c.prime t u : ZMod c.prime) = (x' - x) * (t.z * u.z) ^ 2)
    (hrise : (rise c.prime t u : ZMod c.prime) = (y' - y) * (t.z * u.z) ^ 3) :
    (Triple.chord c.prime t u).Represents
      (Affine.Point.some x y h + Affine.Point.some x' y' h') := by
  have hslope : c.affine.slope x x' y y' * (x - x') = y - y' := by
    rw [Affine.slope_of_X_ne hne, div_mul_cancel₀ _ (sub_ne_zero.2 hne)]
  rw [Affine.Point.add_of_X_ne hne]
  set ℓ := c.affine.slope x x' y y'
  obtain ⟨hX, hY, hZ⟩ := cast_chord (c := c) t u
  rw [hrun] at hZ
  have hlt : (Triple.chord c.prime t u).z < c.prime := Nat.mod_lt _ (NeZero.pos c.prime)
  have hnonzero : ((Triple.chord c.prime t u).z : ZMod c.prime) ≠ 0 := by
    rw [hZ]
    exact mul_ne_zero (mul_ne_zero hz hz')
      (mul_ne_zero (sub_ne_zero.2 (Ne.symm hne)) (pow_ne_zero 2 (mul_ne_zero hz hz')))
  have hfirst : ((Triple.chord c.prime t u).x : ZMod c.prime)
      = c.affine.addX x x' ℓ * (Triple.chord c.prime t u).z ^ 2 := by
    rw [hX, hZ, hrise, hrun, hx, addX_affine]
    linear_combination (-((t.z * u.z : ZMod c.prime) ^ 6) * (ℓ * (x - x') + (y - y'))) * hslope
  refine .finite hlt (fun h0 => hnonzero (by rw [h0, Nat.cast_zero])) hfirst ?_
  rw [hY, hfirst, hZ, hrise, hrun, hx, hy, addY_affine]
  linear_combination ((t.z * u.z : ZMod c.prime) ^ 9 * (x' - x) ^ 2
    * (x - c.affine.addX x x' ℓ)) * hslope

end Sum

theorem Represents.add (ht : t.Represents P) (hu : u.Represents Q) :
    (add c.prime t u).Represents (P + Q) := by
  cases ht with
  | infinity hz =>
    rw [Triple.add, if_pos hz, zero_add]
    exact hu
  | @finite x y h hlt hz hx hy =>
    cases hu with
    | infinity hz' =>
      rw [Triple.add, if_neg hz, if_pos hz', add_zero]
      exact .finite hlt hz hx hy
    | @finite x' y' h' hlt' hz' hx' hy' =>
      have hne : (t.z : ZMod c.prime) ≠ 0 := mt (cast_eq_zero_iff hlt).1 hz
      have hne' : (u.z : ZMod c.prime) ≠ 0 := mt (cast_eq_zero_iff hlt').1 hz'
      have hrun : (run c.prime t u : ZMod c.prime) = (x' - x) * (t.z * u.z) ^ 2 := by
        rw [cast_run, hx, hx']
        ring
      have hrise : (rise c.prime t u : ZMod c.prime) = (y' - y) * (t.z * u.z) ^ 3 := by
        rw [cast_rise, hy, hy']
        ring
      have hpow : ∀ n, (t.z * u.z : ZMod c.prime) ^ n ≠ 0 :=
        fun n => pow_ne_zero n (mul_ne_zero hne hne')
      have hrun0 : run c.prime t u = 0 ↔ x = x' := by
        rw [← cast_eq_zero_iff (run_lt t u), hrun, mul_eq_zero_iff_right (hpow 2), sub_eq_zero,
          eq_comm]
      have hrise0 : rise c.prime t u = 0 ↔ y = y' := by
        rw [← cast_eq_zero_iff (rise_lt t u), hrise, mul_eq_zero_iff_right (hpow 3), sub_eq_zero,
          eq_comm]
      rw [add_eq _ hz hz']
      by_cases hxx : x = x'
      · rw [if_pos (hrun0.2 hxx)]
        exact Represents.tangent (.finite hlt hz hx hy) hxx hrise0
      · rw [if_neg (mt hrun0.1 hxx)]
        exact Represents.chord hx hy hxx hne hne' hrun hrise

/-- Doubling and adding along the bits of a number multiplies by it. -/
theorem Represents.multiply (hu : u.Represents Q) (k : Nat) : ∀ {bits : Nat} {t : Triple}
    {P : c.affine.Point}, t.Represents P → (multiply c.prime k u bits t).Represents
      ((2 ^ bits : ℕ) • P + (k % 2 ^ bits : ℕ) • Q : c.affine.Point)
  | 0, t, P, ht => by
    rw [pow_zero, one_nsmul, Nat.mod_one, zero_nsmul, add_zero]
    exact ht
  | bits + 1, t, P, ht => by
    have hbits : k % 2 ^ (bits + 1) = k % 2 ^ bits + k / 2 ^ bits % 2 * 2 ^ bits := by
      rw [pow_succ, Nat.mod_mul, Nat.mul_comm]
    have hstep : (if k.testBit bits then Triple.add c.prime (Triple.double c.prime t) u
        else Triple.double c.prime t).Represents (P + P + (k / 2 ^ bits % 2 : ℕ) • Q) := by
      rw [Nat.testBit_eq_decide_div_mod_eq]
      rcases Nat.mod_two_eq_zero_or_one (k / 2 ^ bits) with h | h
      · rw [h, if_neg (by decide), zero_nsmul, add_zero]
        exact ht.double
      · rw [h, if_pos (by decide), one_nsmul]
        exact ht.double.add hu
    have hsum : (2 ^ (bits + 1) : ℕ) • P + (k % 2 ^ (bits + 1) : ℕ) • Q
        = (2 ^ bits : ℕ) • (P + P + (k / 2 ^ bits % 2 : ℕ) • Q) + (k % 2 ^ bits : ℕ) • Q := by
      rw [hbits, pow_succ]
      simp only [nsmul_add, add_nsmul, mul_nsmul, two_nsmul]
      abel
    rw [hsum]
    exact hu.multiply k hstep

theorem Represents.multiply_infinity (hu : u.Represents Q) {k : Nat} (hk : k < 2 ^ c.bits) :
    (Triple.multiply c.prime k u c.bits .infinity).Represents (k • Q) := by
  have hmultiply : (Triple.multiply c.prime k u c.bits .infinity).Represents
      ((2 ^ c.bits : ℕ) • 0 + (k % 2 ^ c.bits : ℕ) • Q) := hu.multiply k (.infinity rfl)
  rwa [Nat.mod_eq_of_lt hk, nsmul_zero, zero_add] at hmultiply

end Triple

section Base

variable (c : Curve)

theorem equation_base : c.affine.Equation (c.base.1 : ZMod c.prime) (c.base.2 : ZMod c.prime) := by
  have hbase : (c.base.2 ^ 2 + 3 * c.base.1) % c.prime = (c.base.1 ^ 3 + c.constant) % c.prime := by
    cases c <;> decide +kernel
  have hcast := (ZMod.natCast_eq_natCast_iff' _ _ _).2 hbase
  push_cast at hcast
  rw [Affine.equation_iff]
  simp only [affine]
  linear_combination hcast

theorem nonsingular_base [Fact c.prime.Prime] :
    c.affine.Nonsingular (c.base.1 : ZMod c.prime) (c.base.2 : ZMod c.prime) := by
  have hy : (c.base.2 : ZMod c.prime) ≠ 0 :=
    mt (cast_eq_zero_iff (by cases c <;> decide)).1 (by cases c <;> decide)
  exact (Affine.nonsingular_iff ..).2 ⟨c.equation_base, .inr (ne_negY_self hy)⟩

/-- The base point in the group of the curve. -/
def basePoint [Fact c.prime.Prime] : c.affine.Point :=
  .some _ _ c.nonsingular_base

theorem represents_generator [Fact c.prime.Prime] : c.generator.Represents c.basePoint := by
  have hone : c.generator.z = 1 := rfl
  refine .finite (h := c.nonsingular_base) (by cases c <;> decide) Nat.one_ne_zero ?_ ?_ <;>
    rw [hone, Nat.cast_one, one_pow, mul_one] <;> rfl

end Base

theorem prime_lt (c : Curve) : c.prime < 2 ^ c.bits := by
  cases c <;> decide +kernel

theorem cast_inverse {c : Curve} {m : Nat} [Fact m.Prime] (hm : m < 2 ^ c.bits) {z : Nat}
    (hz : (z : ZMod m) ≠ 0) : (c.inverse m z : ZMod m) = (z : ZMod m)⁻¹ := by
  have hbits : m - 2 < 2 ^ c.bits := Nat.lt_of_le_of_lt (Nat.sub_le m 2) hm
  have hpred : m - 2 + 1 = m - 1 := by
    have := (Fact.out : m.Prime).two_le
    omega
  rw [inverse, cast_powMod, Nat.mod_eq_of_lt hbits, ZMod.natCast_mod, Nat.cast_one, one_mul]
  refine eq_inv_of_mul_eq_one_left ?_
  rw [← pow_succ, hpred, ZMod.pow_card_sub_one_eq_one hz]

section Coordinates

variable {c : Curve} [Fact c.prime.Prime] {t : Triple}

/-- The coordinates of a point, if it has any. -/
def coordinates? (P : c.affine.Point) : Option Point :=
  match P with
  | .zero => none
  | .some x y _ => some ⟨x.val, y.val⟩

theorem toPoint?_eq {P : c.affine.Point} (h : t.Represents P) : c.toPoint? t = coordinates? P := by
  cases h with
  | infinity hz =>
    rw [toPoint?, if_pos hz]
    rfl
  | @finite x y h hlt hz hx hy =>
    have hne : (t.z : ZMod c.prime) ≠ 0 := mt (cast_eq_zero_iff hlt).1 hz
    have hinv := cast_inverse c.prime_lt hne
    have hfirst : t.x * (c.inverse c.prime t.z * c.inverse c.prime t.z % c.prime) % c.prime
        = x.val := by
      rw [← ZMod.val_natCast, Nat.cast_mul, ZMod.natCast_mod, Nat.cast_mul, hinv, hx]
      field_simp
    have hsecond : t.y * (c.inverse c.prime t.z * c.inverse c.prime t.z % c.prime
        * c.inverse c.prime t.z % c.prime) % c.prime = y.val := by
      rw [← ZMod.val_natCast, Nat.cast_mul, ZMod.natCast_mod, Nat.cast_mul, ZMod.natCast_mod,
        Nat.cast_mul, hinv, hy]
      field_simp
    rw [toPoint?, if_neg hz]
    exact congrArg some (congrArg₂ Point.mk hfirst hsecond)

/-- A multiple of the base point, by its coordinates. -/
theorem multipleOfBase?_eq {k : Nat} (hk : k < 2 ^ c.bits) :
    c.multipleOfBase? k = coordinates? (k • c.basePoint) :=
  toPoint?_eq (c.represents_generator.multiply_infinity hk)

end Coordinates

theorem order_nsmul_basePoint : order .p256 • basePoint .p256 = 0 := by
  have hnone : multipleOfBase? .p256 (order .p256) = none := by decide +kernel
  rw [multipleOfBase?_eq (by decide)] at hnone
  rcases hzero : order .p256 • basePoint .p256 with _ | ⟨x, y, h⟩
  · rfl
  · rw [hzero] at hnone
    cases hnone

theorem addOrderOf_basePoint : addOrderOf (basePoint .p256) = order .p256 :=
  have := Fact.mk prime_order_p256
  addOrderOf_eq_prime order_nsmul_basePoint (Affine.Point.some_ne_zero _)

/-- Between zero and the order of the base point, no multiple of it is infinity. -/
theorem nsmul_basePoint_ne_zero {k : Nat} (hpos : 0 < k) (hlt : k < order .p256) :
    k • basePoint .p256 ≠ 0 := by
  intro hzero
  have hdvd := addOrderOf_dvd_of_nsmul_eq_zero hzero
  rw [addOrderOf_basePoint] at hdvd
  exact Nat.not_lt.2 (Nat.le_of_dvd hpos hdvd) hlt

end BearerAuth.Curve
