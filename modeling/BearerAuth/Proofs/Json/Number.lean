import BearerAuth.Json.Kind
import BearerAuth.Proofs.Bytes
import Mathlib.Tactic.IntervalCases

/-!
# Written integers read back

The decimal digits of a number (`decimal`) have no zero before others, and make the number again, so
an integer of 64 bits reads as itself (`readInt64_repr`), provided that what follows cannot go on
with the number (`Number.Ends`).
-/

namespace BearerAuth.Json

open Reader

/-- The decimal digits of a number. -/
def decimal (n : Nat) : Bytes :=
  Token.octets (Nat.toDigits 10 n)

theorem ofText_repr (n : Nat) : Bytes.ofText n.repr = decimal n := by
  rw [Nat.repr_eq_ofList_toDigits, Bytes.ofText_ofList_of_ascii]
  · rfl
  · intro c hc
    have hdigit := Char.isDigit_iff_toNat.1 (Nat.isDigit_of_mem_toDigits (by decide) (by decide) hc)
    exact Nat.lt_of_le_of_lt hdigit.2 (by decide)

theorem octets_digitChar {d : Nat} (h : d < 10) :
    Token.octets [Nat.digitChar d] = [UInt8.ofNat (48 + d)] := by
  interval_cases d <;> rfl

/-- The last digit is the remainder by ten, and those before it make the quotient. -/
theorem decimal_eq (n : Nat) :
    decimal n = (if n < 10 then [] else decimal (n / 10)) ++ [UInt8.ofNat (48 + n % 10)] := by
  unfold decimal
  rw [Nat.toDigits_eq_if (by decide)]
  split_ifs with h
  · rw [octets_digitChar h, Nat.mod_eq_of_lt h]
    rfl
  · rw [← octets_digitChar (Nat.mod_lt n (by decide))]
    exact List.map_append

theorem isDigit_ofNat {d : Nat} (h : d < 10) : isDigit (UInt8.ofNat (48 + d)) = true := by
  interval_cases d <;> rfl

theorem digitValue_ofNat {d : Nat} (h : d < 10) :
    Number.digitValue (UInt8.ofNat (48 + d)) = d := by
  interval_cases d <;> rfl

theorem isDigit_of_mem_decimal (n : Nat) : ∀ x ∈ decimal n, isDigit x = true := by
  induction n using Nat.strongRecOn with
  | ind n ih =>
    intro x hx
    rw [decimal_eq, List.mem_append, List.mem_singleton] at hx
    rcases hx with hx | rfl
    · split_ifs at hx with hlt
      · simp at hx
      · exact ih (n / 10) (by omega) x hx
    · exact isDigit_ofNat (Nat.mod_lt n (by decide))

theorem ofDigits_decimal (n : Nat) : Number.ofDigits (decimal n) = n := by
  induction n using Nat.strongRecOn with
  | ind n ih =>
    rw [decimal_eq, Number.ofDigits, List.foldl_append, List.foldl_cons, List.foldl_nil,
      digitValue_ofNat (Nat.mod_lt n (by decide))]
    split_ifs with hlt
    · simp only [List.foldl_nil]
      omega
    · have htens := ih (n / 10) (by omega)
      rw [Number.ofDigits] at htens
      rw [htens]
      omega

theorem decimal_ne_nil (n : Nat) : decimal n ≠ [] := by
  rw [decimal_eq]
  exact List.append_ne_nil_of_right_ne_nil _ (List.cons_ne_nil _ _)

/-- Only zero begins with a zero. -/
theorem head?_decimal {n : Nat} (h : (decimal n).head? = some 0x30) : n = 0 := by
  induction n using Nat.strongRecOn with
  | ind n ih =>
    rw [decimal_eq] at h
    split_ifs at h with hlt
    · rw [Nat.mod_eq_of_lt hlt] at h
      interval_cases n <;> simp_all
    · rw [List.head?_append, Option.or_of_isSome (List.isSome_head?.2 (decimal_ne_nil _))] at h
      have := ih (n / 10) (by omega) h
      omega

namespace Number

theorem le_foldl_digits (ds : Bytes) : ∀ n : Nat,
    n ≤ ds.foldl (fun n x => n * 10 + digitValue x) n := by
  induction ds with
  | nil => exact fun n => Nat.le_refl n
  | cons x ds ih =>
    intro n
    have := ih (n * 10 + digitValue x)
    rw [List.foldl_cons]
    omega

/-- Digits are gathered to the last while 64 bits hold what they make. -/
theorem gather_eq {ds : Bytes} : ∀ {n : Nat},
    ds.foldl (fun n x => n * 10 + digitValue x) n < 0x10000000000000000 →
      gather n ds = (ds.foldl (fun n x => n * 10 + digitValue x) n, ds.length) := by
  induction ds with
  | nil => exact fun _ => rfl
  | cons x ds ih =>
    intro n h
    rw [List.foldl_cons] at h
    have hle := le_foldl_digits ds (n * 10 + digitValue x)
    rw [gather]
    simp only [if_pos (Nat.lt_of_le_of_lt hle h), ih h, List.foldl_cons, List.length_cons]

theorem gather_decimal {n : Nat} (h : n < 0x10000000000000000) :
    gather 0 (decimal n) = (n, (decimal n).length) := by
  have hn := ofDigits_decimal n
  rw [ofDigits] at hn
  rw [gather_eq (by rwa [hn]), hn]

theorem value_decimal {n : Nat} (h : n < 0x10000000000000000) :
    value ⟨false, decimal n, none, none⟩ = .ok (.integer n) := by
  simp [value, gather_decimal h]
  rfl

theorem value_minus_decimal {n : Nat} (hpos : 0 < n) (h : n ≤ 0x8000000000000000) :
    value ⟨true, decimal n, none, none⟩ = .ok (.integer (-n)) := by
  have hlt : n < 0x10000000000000000 := by omega
  have hout : ¬ (n = 0 ∨ 0x8000000000000000 < n) := by omega
  simp [value, gather_decimal hlt, hout]
  rfl

/-- Whether a number cannot go on with what follows it. -/
def Ends (rest : Bytes) : Prop :=
  ∀ x ∈ rest.head?, isDigit x = false ∧ x ≠ Octet.point ∧ x ≠ 0x65 ∧ x ≠ 0x45

variable {rest : Bytes}

theorem Ends.isDigit_eq_false (h : Ends rest) : ∀ x ∈ rest.head?, isDigit x = false :=
  fun x hx => (h x hx).1

/-- Digits are taken off to the last, if no other follows them. -/
theorem takeWhile_isDigit (h : ∀ x ∈ rest.head?, isDigit x = false) {ds : Bytes}
    (hds : ∀ x ∈ ds, isDigit x = true) :
    (takeWhile isDigit).run (ds ++ rest) = .ok (ds, rest) := by
  have hstop : rest.takeWhile isDigit = [] ∧ rest.dropWhile isDigit = rest := by
    rcases rest with _ | ⟨x, rest⟩
    · exact ⟨rfl, rfl⟩
    · have hx := h x rfl
      simp [hx]
  simp only [takeWhile, List.takeWhile_append_of_pos hds, List.dropWhile_append_of_pos hds,
    hstop.1, hstop.2, List.append_nil]

theorem readDigits_run (h : ∀ x ∈ rest.head?, isDigit x = false) {ds : Bytes}
    (hds : ∀ x ∈ ds, isDigit x = true) (hne : ds ≠ []) (cutOff : ReadError) :
    (readDigits cutOff).run (ds ++ rest) = .ok (ds, rest) := by
  simp only [readDigits, run_bind, takeWhile_isDigit h hds]
  cases ds with
  | nil => exact absurd rfl hne
  | cons x ds => rfl

theorem readFraction_ends (h : Ends rest) (cutOff : ReadError) :
    (readFraction cutOff).run rest = .ok (none, rest) := by
  simp only [readFraction, peek, run_bind]
  split
  · rename_i hpoint
    exact absurd rfl (h _ hpoint).2.1
  · rfl

theorem readExponent_ends (h : Ends rest) (cutOff : ReadError) :
    (readExponent cutOff).run rest = .ok (none, rest) := by
  simp only [readExponent, peek, run_bind]
  split
  · rename_i hmark
    exact absurd rfl (h _ hmark).2.2.1
  · rename_i hmark
    exact absurd rfl (h _ hmark).2.2.2
  · rfl

theorem readDigits_decimal (h : Ends rest) (cutOff : ReadError) (n : Nat) :
    (readDigits cutOff).run (decimal n ++ rest) = .ok (decimal n, rest) :=
  readDigits_run h.isDigit_eq_false (isDigit_of_mem_decimal n) (decimal_ne_nil n) cutOff

theorem not_leadingZero_decimal (n : Nat) :
    ¬ ((decimal n).head? = some 0x30 ∧ decimal n ≠ [0x30]) := by
  rintro ⟨hhead, hne⟩
  rw [head?_decimal hhead] at hne
  exact hne rfl

theorem read_minus_decimal (h : Ends rest) (cutOff : ReadError) (n : Nat) :
    (read Octet.minus cutOff).run (decimal n ++ rest) =
      .ok (⟨true, decimal n, none, none⟩, rest) := by
  have hminus : (Octet.minus == Octet.minus) = true := rfl
  simp only [read, hminus, if_true, run_bind, readDigits_decimal h, not_leadingZero_decimal,
    if_false, run_pure, readFraction_ends h, readExponent_ends h]

theorem read_decimal (h : Ends rest) (cutOff : ReadError) {n : Nat} {first : UInt8} {later : Bytes}
    (hn : decimal n = first :: later) :
    (read first cutOff).run (later ++ rest) = .ok (⟨false, decimal n, none, none⟩, rest) := by
  have hdigits := isDigit_of_mem_decimal n
  rw [hn] at hdigits
  have hminus : (first == Octet.minus) = false := by
    rw [beq_eq_false_iff_ne]
    rintro rfl
    exact absurd (hdigits _ List.mem_cons_self) (by decide)
  have htake := takeWhile_isDigit h.isDigit_eq_false
    fun x hx => hdigits x (List.mem_cons_of_mem first hx)
  have hzero := not_leadingZero_decimal n
  rw [hn] at hzero ⊢
  simp only [read, hminus, Bool.false_eq_true, if_false, run_bind, run_map, htake, hzero, run_pure,
    readFraction_ends h, readExponent_ends h]

end Number

variable {rest : Bytes}

theorem ofFirst?_of_isDigit {x : UInt8} (h : isDigit x = true) :
    Kind.ofFirst? x = some .number := by
  unfold Kind.ofFirst?
  split <;> try exact absurd h (by decide)
  rw [if_pos (.inr h)]

theorem isBlank_of_isDigit {x : UInt8} (h : isDigit x = true) : isBlank x = false := by
  rw [Bool.eq_false_iff]
  intro hblank
  simp only [isBlank, Bool.or_eq_true, beq_iff_eq] at hblank
  rcases hblank with ((rfl | rfl) | rfl) | rfl <;> exact absurd h (by decide)

/-- What is read as an integer, given the number that it is written as. -/
theorem readInt64_run {x : UInt8} {s : Bytes} {n : Number} {i : Int}
    (hblank : isBlank x = false) (hkind : Kind.ofFirst? x = some .number)
    (hread : (Number.read x .valueCutOff).run s = .ok (n, rest))
    (hvalue : n.value = .ok (.integer i)) (hlt : i < 0x8000000000000000) :
    readInt64.run (x :: s) = .ok (Int64.ofInt i, rest) := by
  simp only [readInt64, run_bind, symbol_run hblank, hkind, if_true, hread, hvalue,
    Reader.ofExcept, run_pure, if_pos hlt]

theorem readInt64_decimal (h : Number.Ends rest) {n : Nat} (hlt : n < 0x8000000000000000) :
    readInt64.run (decimal n ++ rest) = .ok (Int64.ofInt n, rest) := by
  obtain ⟨first, later, hn⟩ := List.exists_cons_of_ne_nil (decimal_ne_nil n)
  have hdigit : isDigit first = true := isDigit_of_mem_decimal n first (hn ▸ List.mem_cons_self)
  have hread := Number.read_decimal h .valueCutOff hn
  rw [hn, List.cons_append]
  exact readInt64_run (isBlank_of_isDigit hdigit) (ofFirst?_of_isDigit hdigit) hread
    (Number.value_decimal (by omega)) (by omega)

theorem readInt64_minus_decimal (h : Number.Ends rest) {n : Nat} (hpos : 0 < n)
    (hle : n ≤ 0x8000000000000000) :
    readInt64.run (Octet.minus :: decimal n ++ rest) = .ok (Int64.ofInt (-n), rest) := by
  have hread := Number.read_minus_decimal h .valueCutOff n
  exact readInt64_run rfl rfl hread (Number.value_minus_decimal hpos hle) (by omega)

/-- An integer reads as it was written, unless what follows could go on with it. -/
theorem readInt64_repr (h : Number.Ends rest) (i : Int64) :
    readInt64.run (Bytes.ofText i.toInt.repr ++ rest) = .ok (i, rest) := by
  have hlt := i.toInt_lt
  have hle := i.le_toInt
  have hofInt := i.ofInt_toInt
  generalize i.toInt = n at *
  subst hofInt
  cases n with
  | ofNat n =>
    rw [Int.ofNat_eq_natCast] at *
    rw [show Bytes.ofText (n : Int).repr = decimal n from ofText_repr n]
    exact readInt64_decimal h (by omega)
  | negSucc n =>
    have hrepr : Bytes.ofText (Int.negSucc n).repr = Octet.minus :: decimal (n + 1) := by
      rw [← ofText_repr]
      exact Bytes.ofText_append "-" _
    rw [Int.negSucc_eq] at hle
    rw [hrepr, Int.negSucc_eq]
    exact readInt64_minus_decimal h (Nat.succ_pos n) (by omega)

end BearerAuth.Json
