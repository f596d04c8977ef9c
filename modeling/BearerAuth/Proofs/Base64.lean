import BearerAuth.Base64
import Mathlib.Algebra.Ring.Nat
import Mathlib.Data.List.Basic
import Mathlib.Data.List.TakeWhile
import Mathlib.Data.Option.Basic

/-!
# Base64 reads what it writes

Symbols stand for the numbers below 64, one each (`value?_symbol`, `symbol_of_value?`). Octets are
read back from the text they are written as (`decode_encode`), and no other text is read as the same
octets, since a reader that refuses spare bits leaves nothing of a text aside (`encode_of_decode`).

What is written is the one text whose symbols stand for the bits of the octets, six by six, with
zeros after them up to a whole symbol (`spells_iff`). So it has no lone symbol at its end
(`length_encode_mod_ne_one`) and no spare bits there (`spare_encode`).
-/

namespace BearerAuth.Base64

section Bits

/-- The last `width` bits of a number, the highest of them first. -/
def bits : Nat → Nat → List Bool
  | 0, _ => []
  | width + 1, n => bits width (n / 2) ++ [decide (n % 2 = 1)]

theorem length_bits : ∀ width n : Nat, (bits width n).length = width
  | 0, _ => rfl
  | width + 1, n => by simp [bits, length_bits width]

theorem bits_append (width high : Nat) : ∀ {width' low : Nat}, low < 2 ^ width' →
    bits width high ++ bits width' low = bits (width + width') (high * 2 ^ width' + low)
  | 0, low, h => by
    obtain rfl : low = 0 := by omega
    simp [bits]
  | width' + 1, low, h => by
    have hlow : low / 2 < 2 ^ width' := by omega
    have hhalf : (high * 2 ^ (width' + 1) + low) / 2 = high * 2 ^ width' + low / 2 := by
      rw [Nat.pow_succ, ← Nat.mul_assoc]
      omega
    have hlast : (high * 2 ^ (width' + 1) + low) % 2 = low % 2 := by
      rw [Nat.pow_succ, ← Nat.mul_assoc]
      omega
    rw [← Nat.add_assoc, bits, bits, hhalf, hlast, ← bits_append width high hlow,
      List.append_assoc]

theorem eq_of_bits_eq : ∀ {width n n' : Nat}, n < 2 ^ width → n' < 2 ^ width →
    bits width n = bits width n' → n = n'
  | 0, n, n', hn, hn', _ => by omega
  | width + 1, n, n', hn, hn', h => by
    obtain ⟨hhigh, hlast⟩ := List.append_inj' h rfl
    have hhigh : n / 2 = n' / 2 := eq_of_bits_eq (by omega) (by omega) hhigh
    simp only [List.cons.injEq, decide_eq_decide, and_true] at hlast
    omega

theorem length_flatMap_bits (width : Nat) : ∀ ns : List Nat,
    (ns.flatMap (bits width)).length = width * ns.length
  | [] => rfl
  | n :: ns => by
    rw [List.flatMap_cons, List.length_append, length_bits, length_flatMap_bits width ns,
      List.length_cons, Nat.mul_succ, Nat.add_comm]

theorem eq_of_flatMap_bits_eq {width : Nat} :
    ∀ {ns ns' : List Nat}, ns.length = ns'.length → (∀ n ∈ ns, n < 2 ^ width) →
      (∀ n ∈ ns', n < 2 ^ width) → ns.flatMap (bits width) = ns'.flatMap (bits width) → ns = ns'
  | [], [], _, _, _, _ => rfl
  | n :: ns, n' :: ns', hlength, hns, hns', h => by
    simp only [List.forall_mem_cons] at hns hns'
    obtain ⟨hhead, htail⟩ := List.append_inj h (by simp only [length_bits])
    rw [eq_of_bits_eq hns.1 hns'.1 hhead,
      eq_of_flatMap_bits_eq (Nat.succ.inj hlength) hns.2 hns'.2 htail]

end Bits

variable (a : Alphabet)

namespace Alphabet

theorem toNat_mem_range {c lo hi : Char} (h : lo ≤ c ∧ c ≤ hi) :
    lo.toNat ≤ c.toNat ∧ c.toNat ≤ hi.toNat :=
  h

theorem symbols_url : (List.range 64).map url.symbol
    = "ABCDEFGHIJKLMNOPQRSTUVWXYZabcdefghijklmnopqrstuvwxyz0123456789-_".toList := by
  decide

theorem value?_symbol {n : Nat} (h : n < 64) : a.value? (a.symbol n) = some n := by
  have hall : ∀ m : Fin 64, a.value? (a.symbol m) = some m.val := by
    cases a <;> decide
  exact hall ⟨n, h⟩

theorem symbol_of_value? {c : Char} {n : Nat} (h : a.value? c = some n) :
    n < 64 ∧ a.symbol n = c := by
  unfold value? at h
  split_ifs at h with hupper hlower hdigit
  · obtain ⟨hA, hZ⟩ : 65 ≤ c.toNat ∧ c.toNat ≤ 90 := toNat_mem_range hupper
    cases h
    refine ⟨by omega, ?_⟩
    unfold symbol
    rw [if_pos (by omega), Nat.add_sub_cancel' hA, Char.ofNat_toNat]
  · obtain ⟨ha, hz⟩ : 97 ≤ c.toNat ∧ c.toNat ≤ 122 := toNat_mem_range hlower
    cases h
    refine ⟨by omega, ?_⟩
    unfold symbol
    rw [if_neg (by omega), if_pos (by omega), Nat.add_sub_cancel' (by omega),
      Char.ofNat_toNat]
  · obtain ⟨h0, h9⟩ : 48 ≤ c.toNat ∧ c.toNat ≤ 57 := toNat_mem_range hdigit
    cases h
    refine ⟨by omega, ?_⟩
    unfold symbol
    rw [if_neg (by omega), if_neg (by omega), if_pos (by omega), Nat.add_sub_cancel,
      Char.ofNat_toNat]
  · split at h <;> cases h <;> exact ⟨by decide, rfl⟩

end Alphabet

section Groups

variable {a} {spare : Nat → Bool} {b : Bytes} {p q r s : Char}

theorem decodeWhere_two : decodeWhere a spare [p, q] = some b ↔
    ∃ i, a.value? p = some i ∧ ∃ j, a.value? q = some j ∧ spare (j % 16)
      ∧ [UInt8.ofNat (i * 4 + j / 16)] = b := by
  simp only [decodeWhere, bind, Option.bind_eq_some_iff, Option.guard_eq_some', exists_const, pure,
    Option.some.injEq]

theorem decodeWhere_three : decodeWhere a spare [p, q, r] = some b ↔
    ∃ i, a.value? p = some i ∧ ∃ j, a.value? q = some j ∧ ∃ k, a.value? r = some k
      ∧ spare (k % 4)
      ∧ [UInt8.ofNat (i * 4 + j / 16), UInt8.ofNat (j % 16 * 16 + k / 4)] = b := by
  simp only [decodeWhere, bind, Option.bind_eq_some_iff, Option.guard_eq_some', exists_const, pure,
    Option.some.injEq]

theorem decodeWhere_four {rest : List Char} :
    decodeWhere a spare (p :: q :: r :: s :: rest) = some b ↔
      ∃ i, a.value? p = some i ∧ ∃ j, a.value? q = some j ∧ ∃ k, a.value? r = some k
        ∧ ∃ l, a.value? s = some l ∧ ∃ later, decodeWhere a spare rest = some later
        ∧ UInt8.ofNat (i * 4 + j / 16) :: UInt8.ofNat (j % 16 * 16 + k / 4)
          :: UInt8.ofNat (k % 4 * 64 + l) :: later = b := by
  simp only [decodeWhere, bind, Option.bind_eq_some_iff, pure, Option.some.injEq]

end Groups

theorem ofNat_eq {n : Nat} {x : UInt8} (h : n = x.toNat) : UInt8.ofNat n = x := by
  rw [h, UInt8.ofNat_toNat]

theorem decode_encode : ∀ b : Bytes, decode a (encode a b) = some b
  | [] => rfl
  | [x] => by
    have hx := x.toNat_lt
    refine decodeWhere_two.2 ⟨_, Alphabet.value?_symbol a (by omega), _,
      Alphabet.value?_symbol a (by omega), decide_eq_true (by omega), ?_⟩
    rw [ofNat_eq (x := x) (by omega)]
  | [x, y] => by
    have hx := x.toNat_lt
    have hy := y.toNat_lt
    refine decodeWhere_three.2 ⟨_, Alphabet.value?_symbol a (by omega), _,
      Alphabet.value?_symbol a (by omega), _, Alphabet.value?_symbol a (by omega),
      decide_eq_true (by omega), ?_⟩
    rw [ofNat_eq (x := x) (by omega), ofNat_eq (x := y) (by omega)]
  | x :: y :: z :: rest => by
    have hx := x.toNat_lt
    have hy := y.toNat_lt
    have hz := z.toNat_lt
    refine decodeWhere_four.2 ⟨_, Alphabet.value?_symbol a (by omega), _,
      Alphabet.value?_symbol a (by omega), _, Alphabet.value?_symbol a (by omega), _,
      Alphabet.value?_symbol a (by omega), rest, decode_encode rest, ?_⟩
    rw [ofNat_eq (x := x) (by omega), ofNat_eq (x := y) (by omega), ofNat_eq (x := z) (by omega)]

/-- A text that is read is the one that is written, since no bit of it is left aside. -/
theorem encode_of_decode : ∀ {text : List Char} {b : Bytes},
    decode a text = some b → encode a b = text
  | [], b, h => by
    cases h
    rfl
  | [_], b, h => by cases h
  | [p, q], b, h => by
    obtain ⟨i, hp, j, hq, hspare, rfl⟩ := decodeWhere_two.1 h
    obtain ⟨hi, rfl⟩ := Alphabet.symbol_of_value? a hp
    obtain ⟨hj, rfl⟩ := Alphabet.symbol_of_value? a hq
    have hspare := of_decide_eq_true hspare
    have h₁ : (i * 4 + j / 16) % 2 ^ 8 / 4 = i := by omega
    have h₂ : (i * 4 + j / 16) % 2 ^ 8 % 4 * 16 = j := by omega
    simp only [encode, UInt8.toNat_ofNat', h₁, h₂]
  | [p, q, r], b, h => by
    obtain ⟨i, hp, j, hq, k, hr, hspare, rfl⟩ := decodeWhere_three.1 h
    obtain ⟨hi, rfl⟩ := Alphabet.symbol_of_value? a hp
    obtain ⟨hj, rfl⟩ := Alphabet.symbol_of_value? a hq
    obtain ⟨hk, rfl⟩ := Alphabet.symbol_of_value? a hr
    have hspare := of_decide_eq_true hspare
    have h₁ : (i * 4 + j / 16) % 2 ^ 8 / 4 = i := by omega
    have h₂ : (i * 4 + j / 16) % 2 ^ 8 % 4 * 16 + (j % 16 * 16 + k / 4) % 2 ^ 8 / 16 = j := by omega
    have h₃ : (j % 16 * 16 + k / 4) % 2 ^ 8 % 16 * 4 = k := by omega
    simp only [encode, UInt8.toNat_ofNat', h₁, h₂, h₃]
  | p :: q :: r :: s :: rest, b, h => by
    obtain ⟨i, hp, j, hq, k, hr, l, hs, later, hrest, rfl⟩ := decodeWhere_four.1 h
    obtain ⟨hi, rfl⟩ := Alphabet.symbol_of_value? a hp
    obtain ⟨hj, rfl⟩ := Alphabet.symbol_of_value? a hq
    obtain ⟨hk, rfl⟩ := Alphabet.symbol_of_value? a hr
    obtain ⟨hl, rfl⟩ := Alphabet.symbol_of_value? a hs
    have h₁ : (i * 4 + j / 16) % 2 ^ 8 / 4 = i := by omega
    have h₂ : (i * 4 + j / 16) % 2 ^ 8 % 4 * 16 + (j % 16 * 16 + k / 4) % 2 ^ 8 / 16 = j := by omega
    have h₃ : (j % 16 * 16 + k / 4) % 2 ^ 8 % 16 * 4 + (k % 4 * 64 + l) % 2 ^ 8 / 64 = k := by omega
    have h₄ : (k % 4 * 64 + l) % 2 ^ 8 % 64 = l := by omega
    simp only [encode, UInt8.toNat_ofNat', h₁, h₂, h₃, h₄, encode_of_decode hrest]

theorem decode_eq_some_iff {text : List Char} {b : Bytes} :
    decode a text = some b ↔ text = encode a b := by
  constructor
  · intro h
    exact (encode_of_decode a h).symm
  · rintro rfl
    exact decode_encode a b

/-- The symbols stand for the bits of the octets, six by six, the last six filled up with zeros. -/
def Spells (text : List Char) (b : Bytes) : Prop :=
  ∃ values : List Nat, text = values.map a.symbol ∧ (∀ n ∈ values, n < 2 ^ 6)
    ∧ ∃ fill < 6, values.flatMap (bits 6)
      = (b.map UInt8.toNat).flatMap (bits 8) ++ List.replicate fill false

theorem spells_encode : ∀ b : Bytes, Spells a (encode a b) b
  | [] => ⟨[], rfl, by simp, 0, by omega, rfl⟩
  | [x] => by
    have hx := x.toNat_lt
    refine ⟨[x.toNat / 4, x.toNat % 4 * 16], rfl, ?_, 4, by omega, ?_⟩
    · simp only [List.forall_mem_cons, List.not_mem_nil, false_implies, implies_true, and_true]
      omega
    · have hfill : List.replicate 4 false = bits 4 0 := rfl
      simp only [List.map_cons, List.map_nil, List.flatMap_cons, List.flatMap_nil,
        List.append_nil, hfill]
      rw [bits_append 6 _ (by omega), bits_append 8 _ (by omega)]
      exact congrArg (bits _) (by omega)
  | [x, y] => by
    have hx := x.toNat_lt
    have hy := y.toNat_lt
    refine ⟨[x.toNat / 4, x.toNat % 4 * 16 + y.toNat / 16, y.toNat % 16 * 4], rfl, ?_, 2,
      by omega, ?_⟩
    · simp only [List.forall_mem_cons, List.not_mem_nil, false_implies, implies_true, and_true]
      omega
    · have hfill : List.replicate 2 false = bits 2 0 := rfl
      simp only [List.map_cons, List.map_nil, List.flatMap_cons, List.flatMap_nil,
        List.append_nil, hfill, List.append_assoc]
      rw [bits_append 6 _ (by omega), bits_append 6 _ (by omega), bits_append 8 _ (by omega),
        bits_append 8 _ (by omega)]
      exact congrArg (bits _) (by omega)
  | x :: y :: z :: rest => by
    have hx := x.toNat_lt
    have hy := y.toNat_lt
    have hz := z.toNat_lt
    obtain ⟨values, hrest, hvalues, fill, hfill, hbits⟩ := spells_encode rest
    refine ⟨x.toNat / 4 :: (x.toNat % 4 * 16 + y.toNat / 16) :: (y.toNat % 16 * 4 + z.toNat / 64)
      :: z.toNat % 64 :: values, ?_, ?_, fill, hfill, ?_⟩
    · simp only [encode, hrest, List.map_cons]
    · simp only [List.forall_mem_cons]
      exact ⟨by omega, by omega, by omega, by omega, hvalues⟩
    · have hgroup : bits 6 (x.toNat / 4) ++ (bits 6 (x.toNat % 4 * 16 + y.toNat / 16)
          ++ (bits 6 (y.toNat % 16 * 4 + z.toNat / 64) ++ bits 6 (z.toNat % 64)))
          = bits 8 x.toNat ++ (bits 8 y.toNat ++ bits 8 z.toNat) := by
        rw [bits_append 6 _ (by omega), bits_append 6 _ (by omega), bits_append 6 _ (by omega),
          bits_append 8 _ (by omega), bits_append 8 _ (by omega)]
        exact congrArg (bits _) (by omega)
      simpa only [List.map_cons, List.flatMap_cons, hbits, List.append_assoc]
        using congrArg (· ++ ((rest.map UInt8.toNat).flatMap (bits 8)
          ++ List.replicate fill false)) hgroup

theorem length_of_bits_eq {values : List Nat} {b : Bytes} {fill : Nat}
    (h : values.flatMap (bits 6)
      = (b.map UInt8.toNat).flatMap (bits 8) ++ List.replicate fill false) :
    6 * values.length = 8 * b.length + fill := by
  have hlength := congrArg List.length h
  simpa only [List.length_append, List.length_replicate, length_flatMap_bits, List.length_map]
    using hlength

/-- No two texts spell the same octets: the number of octets says how many zeros there are. -/
theorem eq_of_spells {text text' : List Char} {b : Bytes} (h : Spells a text b)
    (h' : Spells a text' b) : text = text' := by
  obtain ⟨values, rfl, hvalues, fill, hfill, hbits⟩ := h
  obtain ⟨values', rfl, hvalues', fill', hfill', hbits'⟩ := h'
  have hlength := length_of_bits_eq hbits
  have hlength' := length_of_bits_eq hbits'
  obtain rfl : fill = fill' := by omega
  rw [eq_of_flatMap_bits_eq (by omega) hvalues hvalues' (hbits.trans hbits'.symm)]

theorem spells_iff {text : List Char} {b : Bytes} : Spells a text b ↔ text = encode a b := by
  constructor
  · intro h
    exact eq_of_spells a h (spells_encode a b)
  · rintro rfl
    exact spells_encode a b

theorem exists_symbol_of_mem_encode {b : Bytes} {c : Char} (h : c ∈ encode a b) :
    ∃ n < 64, c = a.symbol n := by
  obtain ⟨values, htext, hvalues, -⟩ := spells_encode a b
  rw [htext, List.mem_map] at h
  obtain ⟨n, hn, rfl⟩ := h
  exact ⟨n, hvalues n hn, rfl⟩

/-- In the alphabet for URLs, only letters, digits, `-` and `_` are written. -/
theorem mem_encode_url {b : Bytes} {c : Char} (h : c ∈ encode .url b) :
    c.isAlphanum ∨ c = '-' ∨ c = '_' := by
  obtain ⟨n, hn, rfl⟩ := exists_symbol_of_mem_encode .url h
  have hall : ∀ m : Fin 64, (Alphabet.url.symbol m).isAlphanum ∨ Alphabet.url.symbol m = '-'
      ∨ Alphabet.url.symbol m = '_' := by decide
  exact hall ⟨n, hn⟩

theorem length_encode_mod_ne_one (b : Bytes) : (encode a b).length % 4 ≠ 1 := by
  obtain ⟨values, htext, -, fill, hfill, hbits⟩ := spells_encode a b
  have := length_of_bits_eq hbits
  rw [htext, List.length_map]
  omega

/-- The spare bits of the last symbol are zero: four after a lone octet, two after a pair. -/
theorem spare_encode {c : Char} {n : Nat} (hvalue : a.value? c = some n) :
    ∀ {b : Bytes}, (encode a b).getLast? = some c →
      ((encode a b).length % 4 = 2 → n % 16 = 0) ∧ ((encode a b).length % 4 = 3 → n % 4 = 0)
  | [], h => by simp [encode] at h
  | [x], h => by
    obtain rfl : a.symbol (x.toNat % 4 * 16) = c := by simpa [encode] using h
    rw [Alphabet.value?_symbol a (by omega), Option.some.injEq] at hvalue
    refine ⟨fun _ => by omega, fun hlength => ?_⟩
    simp [encode] at hlength
  | [x, y], h => by
    obtain rfl : a.symbol (y.toNat % 16 * 4) = c := by simpa [encode] using h
    rw [Alphabet.value?_symbol a (by omega), Option.some.injEq] at hvalue
    refine ⟨fun hlength => ?_, fun _ => by omega⟩
    simp [encode] at hlength
  | x :: y :: z :: rest, h => by
    simp only [encode] at h ⊢
    rcases hrest : encode a rest with _ | ⟨d, ds⟩
    · simp
    · have ih := spare_encode hvalue (b := rest)
      rw [hrest] at h ih
      simp only [List.getLast?_cons_cons] at h
      have := ih h
      simp only [List.length_cons] at this ⊢
      omega

theorem not_mem_encode {c : Char} (h : a.value? c = none) (b : Bytes) : c ∉ encode a b := by
  intro hmem
  obtain ⟨n, hn, rfl⟩ := exists_symbol_of_mem_encode a hmem
  rw [Alphabet.value?_symbol a hn] at h
  cases h

theorem dropWhile_fill {symbols : List Char} (h : '=' ∉ symbols) (fill : Nat) :
    ((symbols ++ List.replicate fill '=').reverse.dropWhile (· = '=')).reverse = symbols := by
  have hfill : ∀ c ∈ List.replicate fill '=', decide (c = '=') = true := by
    intro c hc
    exact decide_eq_true (List.eq_of_mem_replicate hc)
  have hsymbols : symbols.reverse.dropWhile (· = '=') = symbols.reverse := by
    rw [List.dropWhile_eq_self_iff]
    intro hlength heq
    exact h (by simpa [of_decide_eq_true heq] using List.getElem_mem hlength)
  rw [List.reverse_append, List.reverse_replicate, List.dropWhile_append_of_pos hfill, hsymbols,
    List.reverse_reverse]

/-- The padded form is read back. -/
theorem decodePadded_encodePadded (b : Bytes) : decodePadded a (encodePadded a b) = some b := by
  have hmod := length_encode_mod_ne_one a b
  have hbody := dropWhile_fill (not_mem_encode a (by cases a <;> decide) b)
    ((4 - (encode a b).length % 4) % 4)
  have hlength : (encodePadded a b).length
      = (encode a b).length + (4 - (encode a b).length % 4) % 4 := by
    rw [encodePadded, List.length_append, List.length_replicate]
  rw [decodePadded, if_pos (by omega), encodePadded]
  simp only [hbody]
  rw [← encodePadded, if_pos (by omega), decode_encode]

end BearerAuth.Base64
