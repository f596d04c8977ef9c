import BearerAuth.Curve.Point
import Mathlib.NumberTheory.LucasPrimality

/-!
# Primes of the curves

A number is prime if some number has the order of a prime modulo it: this takes powers
(`cast_powMod`) and the primes of the number before it. So a list of such `Certificate`s, each of
which may use the primes before it, certifies all its numbers (`prime_of_areValid`).
-/

namespace BearerAuth.Curve

theorem cast_powMod (m : Nat) (bits : Nat) : ∀ b e acc : Nat,
    (powMod m b bits e acc : ZMod m) = acc * (b : ZMod m) ^ (e % 2 ^ bits) := by
  induction bits with
  | zero =>
    intro b e acc
    rw [powMod, pow_zero, Nat.mod_one, pow_zero, mul_one]
  | succ bits ih =>
    intro b e acc
    have hexponent : e % 2 ^ (bits + 1) = e % 2 + 2 * (e / 2 % 2 ^ bits) := by
      rw [pow_succ', Nat.mod_mul]
    rw [powMod, ih, hexponent, pow_add, pow_mul, ZMod.natCast_mod, Nat.cast_mul, ← sq, ← mul_assoc]
    rcases Nat.mod_two_eq_zero_or_one e with h | h
    · rw [h, if_neg (by decide), pow_zero, mul_one]
    · rw [h, if_pos rfl, ZMod.natCast_mod, Nat.cast_mul, pow_one]

theorem powMod_lt {m : Nat} (bits : Nat) : ∀ {b e acc : Nat}, acc < m →
    powMod m b bits e acc < m := by
  induction bits with
  | zero => exact fun h => h
  | succ bits ih =>
    intro b e acc h
    rw [powMod]
    refine ih ?_
    split
    · exact Nat.mod_lt _ (Nat.zero_lt_of_lt h)
    · exact h

/-- A number whose powers show that `prime` is one, given the primes that make up `prime - 1`. -/
structure Certificate where
  prime : Nat
  witness : Nat
  factors : List Nat

/-- Whether a number below ten thousand is prime, by division. -/
def isSmallPrime (n : Nat) : Bool :=
  decide (2 ≤ n) && decide (n < 10000)
    && (List.range 100).all fun d => decide (d < 2) || decide (n < d * d) || decide (n % d ≠ 0)

theorem prime_of_isSmallPrime {n : Nat} (h : isSmallPrime n = true) : n.Prime := by
  simp only [isSmallPrime, Bool.and_eq_true, decide_eq_true_eq, List.all_eq_true, List.mem_range,
    Bool.or_eq_true] at h
  obtain ⟨⟨htwo, hlt⟩, hdivide⟩ := h
  refine Nat.prime_def_le_sqrt.2 ⟨htwo, fun d hd hsqrt hdvd => ?_⟩
  have hle : d * d ≤ n := Nat.le_sqrt.1 hsqrt
  have hsmall : d < 100 := by
    by_contra hnot
    have hsq := Nat.mul_le_mul (Nat.not_lt.1 hnot) (Nat.not_lt.1 hnot)
    omega
  rcases hdivide d hsmall with (h | h) | h
  · omega
  · omega
  · exact h (Nat.mod_eq_zero_of_dvd hdvd)

namespace Certificate

/-- A power of the witness. -/
def power (c : Certificate) (e : Nat) : Nat :=
  powMod c.prime c.witness (c.prime.log2 + 1) e 1

/-- Whether the certificate is one, where the given numbers are known to be prime. -/
def isValid (c : Certificate) (known : List Nat) : Bool :=
  decide (1 < c.prime) && decide (c.factors.prod = c.prime - 1)
    && c.factors.all (fun q => known.contains q || isSmallPrime q)
    && decide (c.power (c.prime - 1) = 1)
    && c.factors.all fun q => decide (c.power ((c.prime - 1) / q) ≠ 1)

theorem cast_power (c : Certificate) {e : Nat} (h : e ≤ c.prime) :
    (c.power e : ZMod c.prime) = (c.witness : ZMod c.prime) ^ e := by
  have hlt : e < 2 ^ (c.prime.log2 + 1) := Nat.lt_of_le_of_lt h Nat.lt_log2_self
  rw [power, cast_powMod, Nat.mod_eq_of_lt hlt, Nat.cast_one, one_mul]

theorem power_lt {c : Certificate} (h : 1 < c.prime) (e : Nat) : c.power e < c.prime :=
  powMod_lt _ h

theorem prime_of_isValid {c : Certificate} {known : List Nat} (hknown : ∀ q ∈ known, q.Prime)
    (h : c.isValid known = true) : c.prime.Prime := by
  simp only [isValid, Bool.and_eq_true, decide_eq_true_eq, List.all_eq_true] at h
  obtain ⟨⟨⟨⟨hone, hprod⟩, hfactors⟩, hpower⟩, hroots⟩ := h
  have hprime : ∀ q ∈ c.factors, Prime q := by
    intro q hq
    rcases Bool.or_eq_true _ _ ▸ hfactors q hq with hmem | hsmall
    · exact (hknown q (List.contains_iff_mem.1 hmem)).prime
    · exact (prime_of_isSmallPrime hsmall).prime
  refine lucas_primality c.prime c.witness ?_ fun q hq hdvd hroot => ?_
  · rw [← cast_power c (Nat.sub_le _ _), hpower, Nat.cast_one]
  · rw [← hprod] at hdvd
    refine hroots q (mem_list_primes_of_dvd_prod hq.prime hprime hdvd) ?_
    have hle : (c.prime - 1) / q ≤ c.prime :=
      Nat.le_trans (Nat.div_le_self _ _) (Nat.sub_le _ _)
    have hmod : ((c.power ((c.prime - 1) / q) : Nat) : ZMod c.prime) = (1 : Nat) := by
      rw [cast_power c hle, hroot, Nat.cast_one]
    rwa [ZMod.natCast_eq_natCast_iff', Nat.mod_eq_of_lt (power_lt hone _),
      Nat.mod_eq_of_lt hone] at hmod

/-- Whether each certificate is one, where the given numbers and those of the certificates before
it are known to be prime. -/
def areValid (known : List Nat) : List Certificate → Bool
  | [] => true
  | c :: later => c.isValid known && areValid (c.prime :: known) later

theorem prime_of_areValid : ∀ {cs : List Certificate} {known : List Nat},
    (∀ q ∈ known, q.Prime) → areValid known cs = true → ∀ c ∈ cs, c.prime.Prime
  | [], _, _, _, _, hc => by cases hc
  | c :: cs, known, hknown, h, d, hd => by
    obtain ⟨hvalid, hlater⟩ := (Bool.and_eq_true _ _).mp h
    have hprime := prime_of_isValid hknown hvalid
    rcases List.mem_cons.1 hd with rfl | hd
    · exact hprime
    · refine prime_of_areValid (fun q hq => ?_) hlater d hd
      rcases List.mem_cons.1 hq with rfl | hq
      · exact hprime
      · exact hknown q hq

end Certificate

/-- Those of the prime of P-256 and of the order of its base point, after those that they use. -/
def certificates : List Certificate :=
  [⟨65537, 3, [2, 2, 2, 2, 2, 2, 2, 2, 2, 2, 2, 2, 2, 2, 2, 2]⟩,
    ⟨17449, 14, [2, 2, 2, 3, 727]⟩,
    ⟨6700417, 5, [2, 2, 2, 2, 2, 2, 2, 3, 17449]⟩,
    ⟨66417393611, 6, [2, 5, 53, 173, 197, 3677]⟩,
    ⟨11290956913871, 13, [2, 5, 17, 66417393611]⟩,
    ⟨78283, 3, [2, 3, 3, 4349]⟩,
    ⟨18169, 11, [2, 2, 2, 3, 757]⟩,
    ⟨704251, 2, [2, 3, 3, 5, 5, 5, 313]⟩,
    ⟨46076956964474543, 5, [2, 23, 18169, 78283, 704251]⟩,
    ⟨204061199, 11, [2, 11, 23, 107, 3769]⟩,
    ⟨34282281433, 17, [2, 2, 2, 3, 7, 204061199]⟩,
    ⟨774023187263532362759620327192479577272145303, 3,
      [2, 3, 3, 2411, 34282281433, 11290956913871, 46076956964474543]⟩,
    ⟨835945042244614951780389953367877943453916927241, 11,
      [2, 2, 2, 3, 3, 3, 5, 774023187263532362759620327192479577272145303]⟩,
    ⟨490463, 14, [2, 7, 53, 661]⟩,
    ⟨115792089210356248762697446949407573530086143415290314195533631308867097853951, 6,
      [2, 3, 5, 5, 17, 257, 641, 1531, 65537, 490463, 6700417,
        835945042244614951780389953367877943453916927241]⟩,
    ⟨38189, 2, [2, 2, 9547]⟩,
    ⟨126241, 7, [2, 2, 2, 2, 2, 3, 5, 263]⟩,
    ⟨104471, 11, [2, 5, 31, 337]⟩,
    ⟨3969899, 2, [2, 19, 104471]⟩,
    ⟨1002328039319, 19, [2, 126241, 3969899]⟩,
    ⟨16879, 3, [2, 3, 29, 97]⟩,
    ⟨155317, 5, [2, 2, 3, 7, 43, 43]⟩,
    ⟨191039911, 3, [2, 3, 5, 41, 155317]⟩,
    ⟨208150935158385979, 2, [2, 3, 11, 43, 127, 3023, 191039911]⟩,
    ⟨2624747550333869278416773953, 7, [2, 2, 2, 2, 2, 2, 3, 3, 1297, 16879, 208150935158385979]⟩,
    ⟨311245691, 2, [2, 5, 7, 17, 29, 29, 311]⟩,
    ⟨622491383, 5, [2, 311245691]⟩,
    ⟨9350987, 2, [2, 17, 229, 1201]⟩,
    ⟨187019741, 2, [2, 2, 5, 9350987]⟩,
    ⟨115792089210356248762697446949407573529996955224135760342422259061068512044369, 7,
      [2, 2, 2, 2, 3, 71, 131, 373, 3407, 17449, 38189, 187019741, 622491383, 1002328039319,
        2624747550333869278416773953]⟩]

theorem areValid_certificates : Certificate.areValid [] certificates = true := by
  decide +kernel

theorem prime_of_mem_certificates {n : Nat} (h : n ∈ certificates.map Certificate.prime) :
    n.Prime := by
  obtain ⟨c, hc, rfl⟩ := List.mem_map.1 h
  exact Certificate.prime_of_areValid (fun q hq => by cases hq) areValid_certificates c hc

instance fact_prime_p256 : Fact (prime .p256).Prime :=
  ⟨prime_of_mem_certificates (by decide +kernel)⟩

theorem prime_order_p256 : (order .p256).Prime :=
  prime_of_mem_certificates (by decide +kernel)

end BearerAuth.Curve
