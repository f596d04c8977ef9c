import BearerAuth.Proofs.Json.Number
import BearerAuth.Proofs.Json.Reader
import Mathlib.Data.List.Induction
import Mathlib.Tactic.SplitIfs

/-!
# Nothing else reads as an integer

Digits without a zero before others are the decimal digits of what they make
(`IsDecimal.decimal_ofDigits`). A number that stands for an integer has no fraction and no exponent,
and all its digits were gathered (`Number.value_eq_integer`), so it was written as that integer is.
So an integer of 64 bits is read from its own written form alone (`readInt64_eq_ok_iff`), and a text
is one exactly if it is that form, apart from blanks (`whole_readInt64_eq_ok_iff`).
-/

namespace BearerAuth.Json

open Reader

theorem ofNat_digitValue {x : UInt8} (h : isDigit x = true) :
    Number.digitValue x < 10 ∧ UInt8.ofNat (48 + Number.digitValue x) = x := by
  simp only [isDigit, Bool.and_eq_true, decide_eq_true_eq, UInt8.le_iff_toNat_le] at h
  have hlow : 48 ≤ x.toNat := h.1
  have hhigh : x.toNat ≤ 57 := h.2
  unfold Number.digitValue
  refine ⟨by omega, ?_⟩
  rw [show 48 + (x.toNat - 48) = x.toNat by omega, UInt8.ofNat_toNat]

theorem ofDigits_append_singleton (ds : Bytes) (x : UInt8) :
    Number.ofDigits (ds ++ [x]) = Number.ofDigits ds * 10 + Number.digitValue x := by
  unfold Number.ofDigits
  rw [List.foldl_append]
  rfl

/-- Digits, at least one, and no zero before others. -/
structure IsDecimal (ds : Bytes) : Prop where
  digits : ∀ x ∈ ds, isDigit x = true
  ne_nil : ds ≠ []
  no_leading_zero : ¬ (ds.head? = some 0x30 ∧ ds ≠ [0x30])

/-- Such digits are those of what they make. -/
theorem IsDecimal.decimal_ofDigits {ds : Bytes} (h : IsDecimal ds) :
    decimal (Number.ofDigits ds) = ds := by
  induction ds using List.reverseRecOn with
  | nil => exact absurd rfl h.ne_nil
  | append_singleton ds x ih =>
    obtain ⟨hx, hx'⟩ := ofNat_digitValue (h.digits x (by simp))
    rw [ofDigits_append_singleton, decimal_eq]
    by_cases hnil : ds = []
    · subst hnil
      have hvalue : Number.ofDigits [] * 10 + Number.digitValue x = Number.digitValue x := by
        simp [Number.ofDigits]
      rw [hvalue, if_pos hx, Nat.mod_eq_of_lt hx, hx']
    · have hhead : (ds ++ [x]).head? = ds.head? := by
        rw [List.head?_append, Option.or_of_isSome (List.isSome_head?.2 hnil)]
      have hmany : ds ++ [x] ≠ [0x30] := by
        intro heq
        have := congrArg List.length heq
        simp [hnil] at this
      have hfirst : ds.head? ≠ some 0x30 := fun h0 => h.no_leading_zero ⟨hhead.trans h0, hmany⟩
      have htens := ih ⟨fun y hy => h.digits y (List.mem_append_left _ hy), hnil,
        fun h0 => hfirst h0.1⟩
      have hpos : Number.ofDigits ds ≠ 0 := by
        intro hzero
        rw [hzero] at htens
        exact hfirst (htens ▸ rfl)
      rw [if_neg (by omega), show (Number.ofDigits ds * 10 + Number.digitValue x) / 10
        = Number.ofDigits ds by omega, htens, show (Number.ofDigits ds * 10
        + Number.digitValue x) % 10 = Number.digitValue x by omega, hx']

namespace Number

/-- If all digits were gathered, what they make is what was gathered. -/
theorem gather_fst_of_all (ds : Bytes) : ∀ n : Nat, ds.length ≤ (gather n ds).2 →
    (gather n ds).1 = ds.foldl (fun n x => n * 10 + digitValue x) n := by
  induction ds with
  | nil => exact fun _ _ => rfl
  | cons x ds ih =>
    intro n h
    rw [gather] at h ⊢
    simp only [] at h ⊢
    split_ifs at h ⊢ with hlt
    · rw [List.length_cons] at h
      rw [List.foldl_cons, ← ih _ (Nat.le_of_succ_le_succ h)]
    · simp at h

theorem floating_ne_integer (e : Except ReadError Float) (f : Float → Float) (m : Int) :
    (do let x ← e; return Value.floating (f x)) ≠ .ok (.integer m) := by
  cases e with
  | error e => simp [bind, Except.bind]
  | ok x => simp [bind, Except.bind, pure, Except.pure]

/-- A number that stands for an integer has neither fraction nor exponent, and is what its digits
make; there is no negative zero. -/
theorem value_eq_integer {n : Number} {m : Int} (h : n.value = .ok (.integer m)) :
    n.fraction = none ∧ n.exponent = none
      ∧ (n.negative = false → m = ofDigits n.whole)
      ∧ (n.negative = true → m = -(ofDigits n.whole : Int) ∧ 0 < ofDigits n.whole
        ∧ ofDigits n.whole ≤ 0x8000000000000000) := by
  unfold value at h
  have hall := gather_fst_of_all n.whole 0
  rcases hg : gather 0 n.whole with ⟨gathered, count⟩
  simp only [hg] at h hall
  split_ifs at h with hplain hpositive hout
  · obtain ⟨hfraction, hexponent, hleft⟩ := hplain
    have hvalue : gathered = ofDigits n.whole := hall (by omega)
    cases h
    refine ⟨Option.isNone_iff_eq_none.1 hfraction, Option.isNone_iff_eq_none.1 hexponent,
      fun _ => by rw [hvalue], fun hnegative => ?_⟩
    rw [hnegative] at hpositive
    cases hpositive
  -- zero with a sign, and what 64 bits do not hold, are floats
  · cases h
  · obtain ⟨hfraction, hexponent, hleft⟩ := hplain
    have hvalue : gathered = ofDigits n.whole := hall (by omega)
    cases h
    refine ⟨Option.isNone_iff_eq_none.1 hfraction, Option.isNone_iff_eq_none.1 hexponent,
      fun hnegative => ?_, fun _ => ⟨by rw [hvalue], by omega, by omega⟩⟩
    rw [hnegative] at hpositive
    exact absurd rfl hpositive
  · exact absurd h (floating_ne_integer _ _ m)
  · exact absurd h (floating_ne_integer _ _ m)

variable {s rest : Bytes} {cutOff : ReadError}

theorem of_readDigits {ds : Bytes} (h : (readDigits cutOff).run s = .ok (ds, rest)) :
    ds = s.takeWhile isDigit ∧ rest = s.dropWhile isDigit ∧ ds ≠ [] := by
  obtain ⟨found, t, hfound, h⟩ := run_bind_eq_ok_iff.1 h
  cases hfound
  split at h
  · obtain ⟨x, t, -, h⟩ := run_bind_eq_ok_iff.1 h
    split_ifs at h <;> cases h
  · rename_i hne
    cases h
    exact ⟨rfl, rfl, hne⟩

theorem of_readFraction (h : (readFraction cutOff).run s = .ok (none, rest)) :
    rest = s ∧ s.head? ≠ some Octet.point := by
  obtain ⟨x, t, hpeek, h⟩ := run_bind_eq_ok_iff.1 h
  cases hpeek
  split at h
  · obtain ⟨-, t, -, h⟩ := run_bind_eq_ok_iff.1 h
    obtain ⟨ds, t, -, h⟩ := run_bind_eq_ok_iff.1 h
    cases h
  · rename_i hpoint
    cases h
    exact ⟨rfl, hpoint⟩

theorem of_readExponent (h : (readExponent cutOff).run s = .ok (none, rest)) :
    rest = s ∧ s.head? ≠ some 0x65 ∧ s.head? ≠ some 0x45 := by
  obtain ⟨x, t, hpeek, h⟩ := run_bind_eq_ok_iff.1 h
  cases hpeek
  split at h
  · obtain ⟨-, t, -, h⟩ := run_bind_eq_ok_iff.1 h
    obtain ⟨negative, t, -, h⟩ := run_bind_eq_ok_iff.1 h
    obtain ⟨ds, t, -, h⟩ := run_bind_eq_ok_iff.1 h
    cases h
  · obtain ⟨-, t, -, h⟩ := run_bind_eq_ok_iff.1 h
    obtain ⟨negative, t, -, h⟩ := run_bind_eq_ok_iff.1 h
    obtain ⟨ds, t, -, h⟩ := run_bind_eq_ok_iff.1 h
    cases h
  · rename_i hmark hmark'
    cases h
    exact ⟨rfl, hmark, hmark'⟩

theorem ends_dropWhile (hpoint : (s.dropWhile isDigit).head? ≠ some Octet.point)
    (hmark : (s.dropWhile isDigit).head? ≠ some 0x65)
    (hmark' : (s.dropWhile isDigit).head? ≠ some 0x45) : Ends (s.dropWhile isDigit) := by
  intro x hx
  have hstop := List.head?_dropWhile_not isDigit s
  rw [hx] at hstop hpoint hmark hmark'
  refine ⟨Bool.eq_false_iff.2 (by simpa using hstop), ?_, ?_, ?_⟩
  · rintro rfl
    exact hpoint rfl
  · rintro rfl
    exact hmark rfl
  · rintro rfl
    exact hmark' rfl

/-- Nothing of a number without fraction and exponent stands after its digits. -/
theorem of_readParts {negative : Bool} {whole : Bytes} {n : Number}
    (h : (do
      if whole.head? = some 0x30 ∧ whole ≠ [0x30] then refuse .invalidNumber
      let fraction ← readFraction cutOff
      let exponent ← readExponent cutOff
      return ⟨negative, whole, fraction, exponent⟩ : Reader Number).run s = .ok (n, rest))
    (hfraction : n.fraction = none) (hexponent : n.exponent = none) :
    n.negative = negative ∧ n.whole = whole ∧ rest = s
      ∧ ¬ (whole.head? = some 0x30 ∧ whole ≠ [0x30])
      ∧ s.head? ≠ some Octet.point ∧ s.head? ≠ some 0x65 ∧ s.head? ≠ some 0x45 := by
  split_ifs at h with hzero
  · cases h
  · obtain ⟨fraction, t, hf, h⟩ := run_bind_eq_ok_iff.1 h
    obtain ⟨exponent, t', he, h⟩ := run_bind_eq_ok_iff.1 h
    cases h
    cases hfraction
    cases hexponent
    obtain ⟨rfl, hpoint⟩ := of_readFraction hf
    obtain ⟨rfl, hmark⟩ := of_readExponent he
    exact ⟨rfl, rfl, rfl, hzero, hpoint, hmark⟩

/-- What a number without fraction and exponent was read from. -/
theorem of_read {first : UInt8} {n : Number} (hfirst : first = Octet.minus ∨ isDigit first = true)
    (h : (read first cutOff).run s = .ok (n, rest)) (hfraction : n.fraction = none)
    (hexponent : n.exponent = none) :
    IsDecimal n.whole ∧ Ends rest
      ∧ first :: s = (if n.negative then [Octet.minus] else []) ++ (n.whole ++ rest) := by
  unfold read at h
  simp only [] at h
  split_ifs at h with hminus
  · obtain ⟨whole, t, hdigits, h⟩ := run_bind_eq_ok_iff.1 h
    obtain ⟨hnegative, rfl, rfl, hzero, hpoint, hmark, hmark'⟩ :=
      of_readParts h hfraction hexponent
    obtain ⟨hwhole, rfl, hne⟩ := of_readDigits hdigits
    refine ⟨⟨?_, hne, hzero⟩, ends_dropWhile hpoint hmark hmark', ?_⟩
    · rw [hwhole]
      exact fun x hx => List.mem_takeWhile_imp hx
    · rw [hnegative, hminus, if_pos rfl, hwhole, List.takeWhile_append_dropWhile,
        beq_iff_eq.1 hminus]
      rfl
  · obtain ⟨whole, t, hdigits, h⟩ := run_bind_eq_ok_iff.1 h
    obtain ⟨hnegative, rfl, rfl, hzero, hpoint, hmark, hmark'⟩ :=
      of_readParts h hfraction hexponent
    simp only [run_map, takeWhile, Except.ok.injEq, Prod.mk.injEq] at hdigits
    obtain ⟨hwhole, rfl⟩ := hdigits
    have hdigit : isDigit first = true := hfirst.resolve_left fun h => hminus (beq_iff_eq.2 h)
    refine ⟨⟨?_, ?_, hzero⟩, ends_dropWhile hpoint hmark hmark', ?_⟩
    · rw [← hwhole]
      intro x hx
      rcases List.mem_cons.1 hx with rfl | hx
      · exact hdigit
      · exact List.mem_takeWhile_imp hx
    · rw [← hwhole]
      exact List.cons_ne_nil _ _
    · rw [hnegative, if_neg hminus, ← hwhole, List.nil_append, List.cons_append,
        List.takeWhile_append_dropWhile]

end Number

theorem ofText_repr_neg {n : Nat} (h : 0 < n) :
    Bytes.ofText (-(n : Int)).repr = Octet.minus :: decimal n := by
  obtain ⟨m, rfl⟩ : ∃ m, n = m + 1 := ⟨n - 1, by omega⟩
  rw [← ofText_repr]
  exact Bytes.ofText_append "-" _

theorem ofText_repr_cases (m : Int) :
    (∃ n : Nat, m = n ∧ Bytes.ofText m.repr = decimal n)
      ∨ ∃ n : Nat, 0 < n ∧ m = -n ∧ Bytes.ofText m.repr = Octet.minus :: decimal n := by
  cases m with
  | ofNat n => exact .inl ⟨n, rfl, ofText_repr n⟩
  | negSucc n => exact .inr ⟨n + 1, Nat.succ_pos n, rfl, ofText_repr_neg (Nat.succ_pos n)⟩

theorem minus_cons_ne_decimal (b : Bytes) (n : Nat) : Octet.minus :: b ≠ decimal n := by
  intro h
  exact absurd (isDigit_of_mem_decimal n Octet.minus (h ▸ List.mem_cons_self)) (by decide)

theorem decimal_injective : Function.Injective decimal :=
  Function.LeftInverse.injective ofDigits_decimal

/-- No two integers are written alike. -/
theorem ofText_repr_inj {m n : Int} (h : Bytes.ofText m.repr = Bytes.ofText n.repr) : m = n := by
  rcases ofText_repr_cases m with ⟨k, rfl, hk⟩ | ⟨k, -, rfl, hk⟩ <;>
    rcases ofText_repr_cases n with ⟨l, rfl, hl⟩ | ⟨l, -, rfl, hl⟩ <;> rw [hk, hl] at h
  · rw [decimal_injective h]
  · exact absurd h.symm (minus_cons_ne_decimal _ _)
  · exact absurd h (minus_cons_ne_decimal _ _)
  · rw [decimal_injective (List.cons.inj h).2]

theorem Number.le_of_value {n : Number} {m : Int} (h : n.value = .ok (.integer m)) :
    -0x8000000000000000 ≤ m := by
  obtain ⟨-, -, hpositive, hnegative⟩ := value_eq_integer h
  cases hsign : n.negative with
  | false =>
    have := hpositive hsign
    omega
  | true =>
    have := hnegative hsign
    omega

/-- A number that stands for an integer is written as that integer is. -/
theorem Number.ofText_repr {n : Number} {m : Int} (h : IsDecimal n.whole)
    (hvalue : n.value = .ok (.integer m)) :
    Bytes.ofText m.repr = (if n.negative then [Octet.minus] else []) ++ n.whole := by
  obtain ⟨-, -, hpositive, hnegative⟩ := value_eq_integer hvalue
  cases hsign : n.negative with
  | false =>
    rw [hpositive hsign, show Bytes.ofText (ofDigits n.whole : Int).repr
      = decimal (ofDigits n.whole) from Json.ofText_repr _, h.decimal_ofDigits]
    rfl
  | true =>
    obtain ⟨hm, hpos, -⟩ := hnegative hsign
    rw [hm, ofText_repr_neg hpos, h.decimal_ofDigits]
    rfl

variable {s rest : Bytes}

theorem ofFirst?_eq_number {x : UInt8} (h : Kind.ofFirst? x = some .number) :
    x = Octet.minus ∨ isDigit x = true := by
  unfold Kind.ofFirst? at h
  split at h <;> try cases h
  split_ifs at h with hx
  exact hx

theorem of_readInt64 {i : Int64} (h : readInt64.run s = .ok (i, rest)) :
    ∃ blanks, IsBlanks blanks ∧ s = blanks ++ (Bytes.ofText i.toInt.repr ++ rest)
      ∧ Number.Ends rest := by
  rw [readInt64, run_bind_eq_ok_iff] at h
  obtain ⟨first, t, hsymbol, h⟩ := h
  rcases first with _ | x
  · cases h
  obtain ⟨-, blanks, hblanks, rfl⟩ := symbol_eq_some_iff.1 hsymbol
  simp only [] at h
  split_ifs at h with hkind
  · obtain ⟨n, t', hread, h⟩ := run_bind_eq_ok_iff.1 h
    obtain ⟨v, t'', hverdict, h⟩ := run_bind_eq_ok_iff.1 h
    obtain ⟨hvalue, rfl⟩ := ofExcept_eq_ok_iff.1 hverdict
    rcases v with m | f
    · simp only [] at h
      split_ifs at h with hlt
      · cases h
        obtain ⟨hfraction, hexponent, -, -⟩ := Number.value_eq_integer hvalue
        obtain ⟨hwhole, hends, heq⟩ :=
          Number.of_read (ofFirst?_eq_number hkind) hread hfraction hexponent
        have hm : (Int64.ofInt m).toInt = m :=
          Int64.toInt_ofInt_of_le (Number.le_of_value hvalue) hlt
        refine ⟨blanks, hblanks, ?_, hends⟩
        rw [hm, Number.ofText_repr hwhole hvalue, heq, List.append_assoc]
      · cases h
    · cases h
  · obtain ⟨found, t', -, h⟩ := run_bind_eq_ok_iff.1 h
    cases h

/-- An integer of 64 bits is read from its own written form, with blanks before it and something
after it that cannot go on with it, and from nothing else. -/
theorem readInt64_eq_ok_iff {i : Int64} : readInt64.run s = .ok (i, rest) ↔
    ∃ blanks, IsBlanks blanks ∧ s = blanks ++ (Bytes.ofText i.toInt.repr ++ rest)
      ∧ Number.Ends rest := by
  refine ⟨of_readInt64, ?_⟩
  rintro ⟨blanks, hblanks, rfl, hends⟩
  have h := readInt64_repr hends i
  obtain ⟨first, t, hsymbol, h⟩ := run_bind_eq_ok_iff.1 h
  rcases first with _ | x
  · cases h
  obtain ⟨hx, blanks', hblanks', heq⟩ := symbol_eq_some_iff.1 hsymbol
  refine run_bind_eq_ok_iff.2 ⟨some x, t, symbol_eq_some_iff.2 ⟨hx, blanks ++ blanks', ?_, ?_⟩, h⟩
  · intro y hy
    exact (List.mem_append.1 hy).elim (hblanks y) (hblanks' y)
  · rw [heq, List.append_assoc]

theorem not_isBlank_of_mem_repr (m : Int) : ∀ x ∈ Bytes.ofText m.repr, isBlank x = false := by
  intro x hx
  rcases ofText_repr_cases m with ⟨n, -, hn⟩ | ⟨n, -, -, hn⟩
  · rw [hn] at hx
    exact isBlank_of_isDigit (isDigit_of_mem_decimal n x hx)
  · rw [hn] at hx
    rcases List.mem_cons.1 hx with rfl | hx
    · rfl
    · exact isBlank_of_isDigit (isDigit_of_mem_decimal n x hx)

theorem Number.ends_of_isBlanks (h : IsBlanks rest) : Ends rest := by
  intro x hx
  have hblank := h x (List.mem_of_mem_head? hx)
  simp only [isBlank, Bool.or_eq_true, beq_iff_eq] at hblank
  rcases hblank with ((rfl | rfl) | rfl) | rfl <;> decide

/-- A text is an integer of 64 bits if it is the written form of one, apart from blanks. -/
theorem whole_readInt64_eq_ok_iff {b : Bytes} {i : Int64} :
    readInt64.whole b = .ok i ↔ trimmed b = Bytes.ofText i.toInt.repr := by
  rw [whole_eq_ok_iff, trimmed_eq_iff (not_isBlank_of_mem_repr i.toInt)]
  constructor
  · rintro ⟨rest, hread, hrest⟩
    obtain ⟨blanks, hblanks, hb, -⟩ := readInt64_eq_ok_iff.1 hread
    exact ⟨blanks, rest, hblanks, hrest, hb⟩
  · rintro ⟨blanks, rest, hblanks, hrest, hb⟩
    exact ⟨rest, readInt64_eq_ok_iff.2 ⟨blanks, hblanks, hb, Number.ends_of_isBlanks hrest⟩, hrest⟩

end BearerAuth.Json
