import BearerAuth.Der.Oid
import Mathlib.Algebra.Ring.Nat

/-!
# Identifiers by their arcs

The octets of an identifier write its arcs, the first two in one octet and each later one in groups
of seven bits. Identifiers of moderate arcs are read (`Oid.HasArcs.ofContent?`), and those that
are read show the arcs that were written, as far as these fit into 32 bits (`Oid.HasArcs.dotted`).
-/

namespace BearerAuth.Der

/-- The groups of a number before the last, each with the bit that says that more follow. -/
def moreGroups (n : Nat) : Bytes :=
  if n = 0 then [] else moreGroups (n / 128) ++ [UInt8.ofNat (128 + n % 128)]

def writeArc (n : Nat) : Bytes :=
  moreGroups (n / 128) ++ [UInt8.ofNat (n % 128)]

def Oid.octetsOf (first second : Nat) (later : List Nat) : Bytes :=
  UInt8.ofNat (first * 40 + second) :: later.flatMap writeArc

/-- The identifier with some arcs, of which the first two are small enough for one octet. -/
structure Oid.HasArcs (o : Oid) (first second : Nat) (later : List Nat) : Prop where
  first_le : first ≤ 2
  second_lt : second < 40
  octets_eq : o.octets = octetsOf first second later

theorem moreGroups_of_ne_zero {n : Nat} (h : n ≠ 0) :
    moreGroups n = moreGroups (n / 128) ++ [UInt8.ofNat (128 + n % 128)] := by
  rw [moreGroups, if_neg h]

theorem length_moreGroups_le {k : Nat} : ∀ {n : Nat}, n < 128 ^ k → (moreGroups n).length ≤ k := by
  induction k with
  | zero =>
    intro n h
    obtain rfl := Nat.lt_one_iff.1 h
    simp [moreGroups]
  | succ k ih =>
    intro n h
    by_cases hn : n = 0
    · simp [hn, moreGroups]
    · have hlength := ih (Nat.div_lt_of_lt_mul (Nat.pow_succ' ▸ h))
      rw [moreGroups_of_ne_zero hn, List.length_append]
      exact Nat.succ_le_succ hlength

/-- The first four groups of an arc are read without a check. -/
theorem readArcs_moreGroups {tail : Bytes} (n : Nat) (h : (moreGroups n).length ≤ 4) :
    readArcs 0 0 (moreGroups n ++ tail)
      = readArcs (moreGroups n).length (n % 0x100000000) tail := by
  induction n using moreGroups.induct generalizing tail with
  | case1 => simp [moreGroups]
  | case2 n hn ih =>
    rw [moreGroups_of_ne_zero hn, List.length_append, List.length_singleton] at h ⊢
    have hnat : (UInt8.ofNat (128 + n % 128)).toNat = 128 + n % 128 :=
      UInt8.toNat_ofNat_of_lt' (show 128 + n % 128 < 256 by omega)
    have hmore : ¬UInt8.ofNat (128 + n % 128) < 128 := by
      rw [UInt8.lt_iff_toNat_lt, hnat]
      exact Nat.not_lt.2 (Nat.le_add_right 128 _)
    have harc : (n / 128 % 0x100000000 * 128 + (128 + n % 128) % 128) % 0x100000000
        = n % 0x100000000 := by omega
    have hfew : ¬(4 ≤ (moreGroups (n / 128)).length ∧ 16 ≤ UInt8.ofNat (128 + n % 128)) :=
      fun hmany => Nat.not_succ_le_self 4 (Nat.le_trans (Nat.succ_le_succ hmany.1) h)
    rw [List.append_assoc, ih (Nat.le_of_succ_le h), List.singleton_append, readArcs]
    simp only [hnat, hmore, harc, hfew, if_false]

/-- An arc of 32 bits is read unless its fifth group is too large. -/
theorem readArcs_writeArc {n : Nat} {tail : Bytes} (h : n < 0x100000000) :
    readArcs 0 0 (writeArc n ++ tail)
      = if 4 ≤ (moreGroups (n / 128)).length ∧ 16 ≤ UInt8.ofNat (n % 128) then none
        else (n :: ·) <$> readArcs 0 0 tail := by
  have hlength : (moreGroups (n / 128)).length ≤ 4 :=
    length_moreGroups_le (Nat.lt_trans (Nat.div_lt_of_lt_mul (k := 0x2000000) h) (by decide))
  have hnat : (UInt8.ofNat (n % 128)).toNat = n % 128 :=
    UInt8.toNat_ofNat_of_lt' (show n % 128 < 256 by omega)
  have hlast : UInt8.ofNat (n % 128) < 128 := by
    rw [UInt8.lt_iff_toNat_lt, hnat]
    exact Nat.mod_lt n (by decide)
  have harc : (n / 128 % 0x100000000 * 128 + n % 128 % 128) % 0x100000000 = n := by omega
  rw [writeArc, List.append_assoc, readArcs_moreGroups _ hlength, List.singleton_append, readArcs]
  simp only [hnat, hlast, harc, if_true]

theorem eq_of_readArcs_flatMap_writeArc {arcs shown : List Nat} (h : ∀ n ∈ arcs, n < 0x100000000)
    (hread : readArcs 0 0 (arcs.flatMap writeArc) = some shown) : shown = arcs := by
  induction arcs generalizing shown with
  | nil =>
    cases hread
    rfl
  | cons n arcs ih =>
    rw [List.forall_mem_cons] at h
    rw [List.flatMap_cons, readArcs_writeArc h.1] at hread
    split_ifs at hread
    obtain ⟨later, hlater, rfl⟩ := Option.map_eq_some_iff.1 hread
    rw [ih h.2 hlater]

theorem readArcs_flatMap_writeArc {arcs : List Nat} (h : ∀ n ∈ arcs, n < 0x10000000) :
    readArcs 0 0 (arcs.flatMap writeArc) = some arcs := by
  induction arcs with
  | nil => rfl
  | cons n arcs ih =>
    rw [List.forall_mem_cons] at h
    have hlength : (moreGroups (n / 128)).length ≤ 3 :=
      length_moreGroups_le (Nat.div_lt_of_lt_mul h.1)
    rw [List.flatMap_cons, readArcs_writeArc (Nat.lt_trans h.1 (by decide)), if_neg, ih h.2]
    · rfl
    · exact fun hmany => Nat.not_succ_le_self 3 (Nat.le_trans hmany.1 hlength)

namespace Oid

variable {o : Oid} {first second : Nat} {later : List Nat}

theorem HasArcs.arcs? (h : o.HasArcs first second later) :
    arcs? o.octets = (first :: second :: ·) <$> readArcs 0 0 (later.flatMap writeArc) := by
  obtain ⟨hfirst, hsecond, hoctets⟩ := h
  have hnat : (UInt8.ofNat (first * 40 + second)).toNat = first * 40 + second :=
    UInt8.toNat_ofNat_of_lt' (show first * 40 + second < 256 by omega)
  have hlt : UInt8.ofNat (first * 40 + second) < 120 := by
    rw [UInt8.lt_iff_toNat_lt, hnat]
    exact show first * 40 + second < 120 by omega
  have hhead : (first * 40 + second) / 40 = first ∧ (first * 40 + second) % 40 = second := by omega
  rw [hoctets, octetsOf, Der.arcs?, if_pos hlt, hnat, hhead.1, hhead.2]

/-- An identifier of moderate arcs is read if it is neither too short nor too long. -/
theorem HasArcs.ofContent? (h : o.HasArcs first second later)
    (hlater : ∀ n ∈ later, n < 0x10000000) (hge : 3 ≤ o.octets.length)
    (hle : o.octets.length ≤ 39) : ofContent? o.octets = some o := by
  refine if_pos ⟨hge, hle, ?_⟩
  rw [h.arcs?, readArcs_flatMap_writeArc hlater]
  rfl

/-- An identifier that is read shows the arcs that its octets write, if they fit. -/
theorem HasArcs.dotted (h : o.HasArcs first second later) (hlater : ∀ n ∈ later, n < 0x100000000)
    (hread : Oid.ofContent? o.octets = some o) :
    o.dotted = ".".intercalate ((first :: second :: later).map fun n => n.repr) := by
  unfold Oid.ofContent? at hread
  split_ifs at hread with hshape
  obtain ⟨arcs, harcs⟩ := Option.isSome_iff_exists.1 hshape.2.2
  rw [Oid.dotted, harcs, Option.getD_some]
  rw [h.arcs?] at harcs
  obtain ⟨shown, hshown, rfl⟩ := Option.map_eq_some_iff.1 harcs
  rw [eq_of_readArcs_flatMap_writeArc hlater hshown]

end Oid

example : (Oid.ofContent? (Oid.octetsOf 1 2 [840, 113549, 1, 1, 1])).map Oid.dotted
    = some "1.2.840.113549.1.1.1" := by decide +kernel

end BearerAuth.Der
