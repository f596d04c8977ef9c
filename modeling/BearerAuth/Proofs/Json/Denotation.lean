import BearerAuth.Proofs.Json.Literal
import BearerAuth.Proofs.Json.Syntax

/-!
# What literals and numbers are read as

A literal is read as the text that it denotes (`Literal.read_of_denotes`) and is passed over to its
closing quote (`Literal.skip_of_denotes`). A number is read as it is written, given that what
follows cannot go on with it (`NumberText.exists_read`), so it is an integer of 64 bits exactly if
it has neither fraction nor exponent, is no zero with a sign, and lies in the range
(`readInt64_number_iff`).
-/

namespace BearerAuth.Json

open Reader

namespace Literal

theorem le_of_mem_utf8EncodeChar {c : Char} (h : 128 ≤ c.toNat) {x : UInt8}
    (hx : x ∈ String.utf8EncodeChar c) : 0x80 ≤ x := by
  have hne : ¬ c.val.toNat ≤ 127 := Nat.not_le.2 h
  have hlarge : ∀ n : Nat, 128 ≤ n → n < 256 → 0x80 ≤ UInt8.ofNat n := by
    intro n hle hlt
    rw [UInt8.le_iff_toNat_le, UInt8.toNat_ofNat', Nat.mod_eq_of_lt hlt]
    exact hle
  simp only [String.utf8EncodeChar, if_neg hne] at hx
  split_ifs at hx <;> simp only [List.mem_cons, List.not_mem_nil, or_false] at hx
  · rcases hx with rfl | rfl <;> exact hlarge _ (by omega) (by omega)
  · rcases hx with rfl | rfl | rfl <;> exact hlarge _ (by omega) (by omega)
  · rcases hx with rfl | rfl | rfl | rfl <;> exact hlarge _ (by omega) (by omega)

/-- An octet of a character that stands for itself is no quote, no backslash and no control. -/
theorem IsPlain.of_mem {c : Char} (h : IsPlain c) {x : UInt8} (hx : x ∈ String.utf8EncodeChar c) :
    x ≠ Octet.quote ∧ x ≠ Octet.backslash ∧ ¬ x < 0x20 := by
  obtain ⟨hcontrol, hquote, hbackslash⟩ := h
  rcases Nat.lt_or_ge c.toNat 128 with hlt | hge
  · rw [Bytes.utf8EncodeChar_of_ascii hlt, List.mem_singleton] at hx
    have hc : x.toNat = c.toNat := by
      rw [hx, UInt8.toNat_ofNat']
      omega
    refine ⟨?_, ?_, ?_⟩
    · rintro rfl
      exact hquote (Char.toNat_inj.1 hc.symm)
    · rintro rfl
      exact hbackslash (Char.toNat_inj.1 hc.symm)
    · rw [UInt8.lt_iff_toNat_lt, hc]
      exact Nat.not_lt.2 hcontrol
  · have hle := le_of_mem_utf8EncodeChar hge hx
    refine ⟨?_, ?_, ?_⟩
    · rintro rfl
      exact absurd hle (by decide)
    · rintro rfl
      exact absurd hle (by decide)
    · rw [UInt8.lt_iff_toNat_lt]
      rw [UInt8.le_iff_toNat_le] at hle
      exact Nat.not_lt.2 (Nat.le_trans (by decide) hle)

theorem octets_plains {escape : Reader Bytes} {b : Bytes}
    (h : ∀ x ∈ b, x ≠ Octet.quote ∧ x ≠ Octet.backslash ∧ ¬ x < 0x20) (rest : Bytes) :
    octets escape (b ++ rest) = (fun p => (b ++ p.1, p.2)) <$> octets escape rest := by
  induction b with
  | nil => exact (id_map _).symm
  | cons x b ih =>
    obtain ⟨hquote, hbackslash, hcontrol⟩ := h x List.mem_cons_self
    rw [List.cons_append, octets_plain hquote hbackslash hcontrol,
      ih fun y hy => h y (List.mem_cons_of_mem x hy), ← comp_map]
    rfl

theorem hexValue?_of_isHexDigit {x : UInt8} {d : Nat} (h : IsHexDigit x d) :
    Bytes.hexValue? (Char.ofNat x.toNat) = some d := by
  cases h with
  | decimal h => interval_cases d <;> rfl
  | @lower d h => interval_cases d <;> rfl
  | @upper d h => interval_cases d <;> rfl

theorem IsHexDigit.lt {x : UInt8} {d : Nat} (h : IsHexDigit x d) : d < 16 := by
  cases h <;> omega

/-- What an escape with digits consists of. -/
theorem IsUnit.exists_digits {n : Nat} {u : Bytes} (h : IsUnit n u) : ∃ digits : Bytes,
    u = Octet.backslash :: hexMark :: digits ∧ digits.length = 4 ∧ hexValue? digits = some n := by
  obtain @⟨w, x, y, z, i, j, k, l, hw, hx, hy, hz, rfl⟩ := h
  refine ⟨[w, x, y, z], rfl, rfl, ?_⟩
  simp [hexValue?, hexValue?_of_isHexDigit hw, hexValue?_of_isHexDigit hx,
    hexValue?_of_isHexDigit hy, hexValue?_of_isHexDigit hz]

theorem IsUnit.lt {n : Nat} {u : Bytes} (h : IsUnit n u) : n < 0x10000 := by
  obtain ⟨hw, hx, hy, hz, rfl⟩ := h
  have := hw.lt
  have := hx.lt
  have := hy.lt
  have := hz.lt
  omega

theorem ofText_singleton (c : Char) :
    Bytes.ofText (String.singleton c) = String.utf8EncodeChar c := by
  rw [String.singleton_eq_ofList, Bytes.ofText_ofList, List.flatMap_singleton]

theorem readEscape_of_readCharacter {s rest : Bytes} {c : Char}
    (h : readCharacter.run s = .ok (c, rest)) :
    readEscape.run (hexMark :: s) = .ok (String.utf8EncodeChar c, rest) := by
  rw [readEscape_of_hexMark, run_bind, h]
  simp only [run_pure, ofText_singleton]

/-- A character is no surrogate. -/
theorem not_surrogate (c : Char) : isLow c.toNat = false ∧ isHigh c.toNat = false := by
  have hvalid : c.toNat < 0xd800 ∨ 0xdfff < c.toNat ∧ c.toNat < 0x110000 := c.valid
  simp only [isLow, isHigh, Bool.and_eq_false_iff, decide_eq_false_iff_not]
  omega

theorem octets_unit {c : Char} {u : Bytes} (h : IsUnit c.toNat u) (rest : Bytes) :
    octets readEscape (u ++ rest) =
      (fun p => (String.utf8EncodeChar c ++ p.1, p.2)) <$> octets readEscape rest := by
  obtain ⟨digits, rfl, hlength, hvalue⟩ := h.exists_digits
  obtain ⟨hlow, hhigh⟩ := not_surrogate c
  have hread := readCharacter_run hlength hvalue hlow hhigh rest
  rw [Char.ofNat_toNat] at hread
  exact octets_backslash (readEscape_of_readCharacter hread)

theorem readPaired_run (x : UInt8) (s : Bytes) : (readPaired x).run (x :: s) = .ok ((), s) := by
  simp only [readPaired, peek, run_bind, List.head?_cons, if_true]
  rfl

/-- A high surrogate and a low one make a character. -/
theorem readCharacter_pair {high low : Bytes} {m n : Nat} (hhigh : high.length = 4)
    (hlow : low.length = 4) (hm : hexValue? high = some m) (hn : hexValue? low = some n)
    (hm' : isHigh m = true) (hn' : isLow n = true) (rest : Bytes) :
    readCharacter.run (high ++ Octet.backslash :: hexMark :: (low ++ rest))
      = .ok (Char.ofNat (0x10000 + (m - 0xd800) * 0x400 + (n - 0xdc00)), rest) := by
  have hnotlow : isLow m = false := by
    simp only [isHigh, Bool.and_eq_true, decide_eq_true_eq] at hm'
    simp only [isLow, Bool.and_eq_false_iff, decide_eq_false_iff_not]
    omega
  simp only [readCharacter, run_bind, readHex_run hhigh hm, hnotlow, Bool.false_eq_true, if_false,
    hm', if_true, readPaired_run, readHex_run hlow hn, hn', run_pure]

theorem octets_pair {c : Char} {high low : Bytes} (hc : 0x10000 ≤ c.toNat)
    (hhigh : IsUnit (0xd800 + (c.toNat - 0x10000) / 0x400) high)
    (hlow : IsUnit (0xdc00 + (c.toNat - 0x10000) % 0x400) low) (rest : Bytes) :
    octets readEscape (high ++ (low ++ rest)) =
      (fun p => (String.utf8EncodeChar c ++ p.1, p.2)) <$> octets readEscape rest := by
  obtain ⟨ds, rfl, hds, hm⟩ := hhigh.exists_digits
  obtain ⟨es, rfl, hes, hn⟩ := hlow.exists_digits
  have hvalid : c.toNat < 0xd800 ∨ 0xdfff < c.toNat ∧ c.toNat < 0x110000 := c.valid
  have hread := readCharacter_pair hds hes hm hn
    (by simp only [isHigh, Bool.and_eq_true, decide_eq_true_eq]; omega)
    (by simp only [isLow, Bool.and_eq_true, decide_eq_true_eq]; omega) rest
  have hsum : 0x10000 + (0xd800 + (c.toNat - 0x10000) / 0x400 - 0xd800) * 0x400
      + (0xdc00 + (c.toNat - 0x10000) % 0x400 - 0xdc00) = c.toNat := by omega
  rw [hsum, Char.ofNat_toNat] at hread
  exact octets_backslash (readEscape_of_readCharacter hread)

theorem simpleEscape?_of_mem_letters : ∀ p ∈ letters, p.1 ≠ hexMark
    ∧ simpleEscape? p.1 = some (UInt8.ofNat p.2.toNat) ∧ p.2.toNat < 128 := by
  decide

theorem octets_letters {x : UInt8} {c : Char} (h : (x, c) ∈ letters) (rest : Bytes) :
    octets readEscape (Octet.backslash :: x :: rest) =
      (fun p => (String.utf8EncodeChar c ++ p.1, p.2)) <$> octets readEscape rest := by
  obtain ⟨hne, hescape, hc⟩ := simpleEscape?_of_mem_letters _ h
  rw [octets_letter hne hescape, Bytes.utf8EncodeChar_of_ascii hc]
  rfl

/-- A literal is read as what it denotes. -/
theorem octets_of_denotes {b : Bytes} {cs : List Char} (h : Denotes b cs) (rest : Bytes) :
    octets readEscape (b ++ Octet.quote :: rest)
      = .ok (cs.flatMap String.utf8EncodeChar, rest) := by
  induction h with
  | nil => exact octets_quote readEscape rest
  | plain hc _ ih =>
    rw [List.append_assoc, octets_plains (fun x hx => hc.of_mem hx), ih]
    rfl
  | letter hx _ ih =>
    rw [List.cons_append, List.cons_append, octets_letters hx, ih]
    rfl
  | unit hu _ ih =>
    rw [List.append_assoc, octets_unit hu, ih]
    rfl
  | pair hc hhigh hlow _ ih =>
    rw [List.append_assoc, List.append_assoc, octets_pair hc hhigh hlow, ih]
    rfl

theorem skipEscape_letter {x : UInt8} {c : Char} (h : (x, c) ∈ letters) (rest : Bytes) :
    skipEscape.run (x :: rest) = .ok ([], rest) := by
  obtain ⟨hne, hescape, -⟩ := simpleEscape?_of_mem_letters _ h
  have hoctet : octet.run (x :: rest) = .ok (some x, rest) := rfl
  simp only [skipEscape, run_bind, hoctet]
  split
  · simp_all
  · rename_i heq
    simp_all
  · rename_i z _ heq
    cases heq
    simp only [hescape, Option.isSome_some, if_true, run_pure]

theorem skip_unit {n : Nat} {u : Bytes} (h : IsUnit n u) (rest : Bytes) :
    octets skipEscape (u ++ rest) = octets skipEscape rest := by
  obtain ⟨digits, rfl, hlength, hvalue⟩ := h.exists_digits
  have hskip : skipEscape.run (hexMark :: (digits ++ rest)) = .ok ([], rest) := by
    show (readHex >>= fun _ => pure []).run (digits ++ rest) = _
    rw [run_bind, readHex_run hlength hvalue]
    rfl
  rw [List.cons_append, List.cons_append, octets_backslash hskip]
  exact id_map _

/-- A literal is passed over to its closing quote. -/
theorem exists_skip_of_denotes {b : Bytes} {cs : List Char} (h : Denotes b cs) (rest : Bytes) :
    ∃ passed, octets skipEscape (b ++ Octet.quote :: rest) = .ok (passed, rest) := by
  induction h with
  | nil => exact ⟨[], octets_quote skipEscape rest⟩
  | @plain b cs c hc _ ih =>
    obtain ⟨passed, ih⟩ := ih
    refine ⟨String.utf8EncodeChar c ++ passed, ?_⟩
    rw [List.append_assoc, octets_plains (fun x hx => hc.of_mem hx), ih]
    rfl
  | letter hx _ ih =>
    obtain ⟨passed, ih⟩ := ih
    refine ⟨passed, ?_⟩
    rw [List.cons_append, List.cons_append, octets_backslash (skipEscape_letter hx _), ih]
    rfl
  | unit hu _ ih =>
    obtain ⟨passed, ih⟩ := ih
    exact ⟨passed, by rw [List.append_assoc, skip_unit hu, ih]⟩
  | pair _ hhigh hlow _ ih =>
    obtain ⟨passed, ih⟩ := ih
    exact ⟨passed, by rw [List.append_assoc, List.append_assoc, skip_unit hhigh, skip_unit hlow,
      ih]⟩

theorem read_of_denotes {b : Bytes} {s : String} (h : Denotes b s.toList) (rest : Bytes) :
    read.run (b ++ Octet.quote :: rest) = .ok (s, rest) := by
  have htext : s.toList.flatMap String.utf8EncodeChar = Bytes.ofText s := by
    rw [← Bytes.ofText_ofList, String.ofList_toList]
  simp only [read, run_bind, octets_of_denotes h, htext, Bytes.toText?_ofText, run_pure]

theorem skip_of_denotes {b : Bytes} {cs : List Char} (h : Denotes b cs) (rest : Bytes) :
    skip.run (b ++ Octet.quote :: rest) = .ok ((), rest) := by
  obtain ⟨passed, hpassed⟩ := exists_skip_of_denotes h rest
  simp only [skip, run_bind, hpassed, run_pure]

end Literal

namespace Number

variable {cutOff : ReadError}

theorem readFraction_point (s : Bytes) : (readFraction cutOff).run (Octet.point :: s)
    = (some <$> readDigits cutOff : Reader (Option Bytes)).run s := rfl

theorem readExponent_mark {x : UInt8} (h : x = 0x65 ∨ x = 0x45) (s : Bytes) :
    (readExponent cutOff).run (x :: s) = (do
      let negative ← readSign
      return some (negative, ← readDigits cutOff) : Reader (Option (Bool × Bytes))).run s := by
  rcases h with rfl | rfl <;> rfl

end Number

theorem Digits.read (ds : Digits) {rest : Bytes} (h : ∀ x ∈ rest.head?, isDigit x = false)
    (cutOff : ReadError) :
    (Number.readDigits cutOff).run (ds.octets ++ rest) = .ok (ds.octets, rest) :=
  Number.readDigits_run h ds.digits ds.ne_nil cutOff

namespace NumberText

variable (n : NumberText) {rest : Bytes}

/-- The number that is written. -/
def number : Number :=
  ⟨n.negative, n.whole, n.fraction.map Digits.octets,
    n.exponent.map fun e => (e.sign = some true, e.digits.octets)⟩

theorem readSign_exponent (e : ExponentText) (rest : Bytes) :
    Number.readSign.run (e.signOctets ++ (e.digits.octets ++ rest))
      = .ok (decide (e.sign = some true), e.digits.octets ++ rest) := by
  obtain ⟨x, ds, heq⟩ := List.exists_cons_of_ne_nil e.digits.ne_nil
  have hx : isDigit x = true := e.digits.digits x (heq ▸ List.mem_cons_self)
  unfold ExponentText.signOctets
  rcases e.sign with _ | _ | _
  · simp only [Number.readSign, peek, run_bind, heq, List.nil_append, List.cons_append,
      List.head?_cons]
    split
    · rename_i hminus
      cases hminus
      exact absurd hx (by decide)
    · rename_i hplus
      cases hplus
      exact absurd hx (by decide)
    · rfl
  · rfl
  · rfl

theorem readExponent_run (h : Number.Ends rest) (cutOff : ReadError) :
    (Number.readExponent cutOff).run (n.exponentOctets ++ rest)
      = .ok (n.number.exponent, rest) := by
  unfold exponentOctets number
  rcases n.exponent with _ | e
  · exact Number.readExponent_ends h cutOff
  · have hdigits := e.digits.read h.isDigit_eq_false cutOff
    simp only [Option.elim_some, ExponentText.octets, List.cons_append, List.append_assoc,
      Number.readExponent_mark e.mark_eq, run_bind, readSign_exponent, hdigits, run_pure,
      Option.map_some]

/-- What follows the digits of a number is none. -/
theorem head?_exponent_append (h : Number.Ends rest) :
    ∀ x ∈ (n.exponentOctets ++ rest).head?, isDigit x = false ∧ x ≠ Octet.point := by
  unfold exponentOctets
  rcases n.exponent with _ | e
  · exact fun x hx => ⟨(h x hx).1, (h x hx).2.1⟩
  · intro x hx
    cases hx
    rcases e.mark_eq with hmark | hmark <;> rw [hmark] <;> decide

theorem head?_fraction_append (h : Number.Ends rest) :
    ∀ x ∈ (n.fractionOctets ++ (n.exponentOctets ++ rest)).head?, isDigit x = false := by
  unfold fractionOctets
  rcases n.fraction with _ | ds
  · exact fun x hx => (n.head?_exponent_append h x hx).1
  · intro x hx
    cases hx
    rfl

theorem readFraction_run (h : Number.Ends rest) (cutOff : ReadError) :
    (Number.readFraction cutOff).run (n.fractionOctets ++ (n.exponentOctets ++ rest))
      = .ok (n.number.fraction, n.exponentOctets ++ rest) := by
  have hhead := n.head?_exponent_append h
  unfold fractionOctets number
  rcases n.fraction with _ | ds
  · simp only [Number.readFraction, peek, run_bind, Option.elim_none, List.nil_append]
    split
    · rename_i hpoint
      exact absurd rfl (hhead _ hpoint).2
    · rfl
  · have hdigits := ds.read (fun x hx => (hhead x hx).1) cutOff
    simp only [Option.elim_some, List.cons_append, Number.readFraction_point, run_map, hdigits,
      Option.map_some]

/-- A written number is read as it is. -/
theorem exists_read (h : Number.Ends rest) (cutOff : ReadError) : ∃ first tail,
    n.octets = first :: tail ∧ (first = Octet.minus ∨ isDigit first = true)
      ∧ (Number.read first cutOff).run (tail ++ rest) = .ok (n.number, rest) := by
  have hwhole := n.isDecimal_whole
  have hdigit := n.head?_fraction_append h
  have hfraction := n.readFraction_run h cutOff
  have hexponent := n.readExponent_run h cutOff
  rcases hnegative : n.negative with _ | _
  · obtain ⟨first, later, heq⟩ := List.exists_cons_of_ne_nil hwhole.ne_nil
    have hfirst : isDigit first = true := hwhole.digits first (heq ▸ List.mem_cons_self)
    have hminus : (first == Octet.minus) = false := by
      rw [beq_eq_false_iff_ne]
      rintro rfl
      exact absurd hfirst (by decide)
    have hzero := hwhole.no_leading_zero
    have htake := Number.takeWhile_isDigit hdigit
      fun x hx => hwhole.digits x (heq ▸ List.mem_cons_of_mem first hx)
    refine ⟨first, later ++ (n.fractionOctets ++ n.exponentOctets), ?_, .inr hfirst, ?_⟩
    · rw [octets, hnegative, heq]
      rfl
    · rw [heq] at hzero
      simp only [Number.read, hminus, Bool.false_eq_true, if_false, run_bind, run_map,
        List.append_assoc, htake, hzero, run_pure, hfraction, hexponent]
      rw [← heq, ← hnegative]
      rfl
  · have hread := Number.readDigits_run hdigit hwhole.digits hwhole.ne_nil cutOff
    refine ⟨Octet.minus, n.whole ++ (n.fractionOctets ++ n.exponentOctets), ?_, .inl rfl, ?_⟩
    · rw [octets, hnegative]
      rfl
    · have hminus : (Octet.minus == Octet.minus) = true := rfl
      simp only [Number.read, hminus, if_true, run_bind, List.append_assoc, hread,
        hwhole.no_leading_zero, if_false, run_pure, hfraction, hexponent]
      rw [← hnegative]
      rfl

theorem exists_cons : ∃ first tail,
    n.octets = first :: tail ∧ (first = Octet.minus ∨ isDigit first = true) := by
  have hends : Number.Ends [] := nofun
  obtain ⟨first, tail, heq, hfirst, -⟩ := n.exists_read hends .valueCutOff
  exact ⟨first, tail, heq, hfirst⟩

theorem isInteger_of_value {m : Int} (h : n.number.value = .ok (.integer m)) :
    n.IsInteger ∧ n.integer = m := by
  obtain ⟨hfraction, hexponent, hpositive, hnegative⟩ := Number.value_eq_integer h
  refine ⟨⟨Option.map_eq_none_iff.1 hfraction, Option.map_eq_none_iff.1 hexponent,
    fun hminus => (hnegative hminus).2.1⟩, ?_⟩
  unfold integer
  split_ifs with hminus
  · exact (hnegative hminus).1.symm
  · exact (hpositive (Bool.eq_false_iff.2 hminus)).symm

theorem value_of_isInteger (h : n.IsInteger) {i : Int64} (hi : n.integer = i.toInt) :
    n.number.value = .ok (.integer i.toInt) := by
  obtain ⟨hfraction, hexponent, hzero⟩ := h
  have hlt := i.toInt_lt
  have hle := i.le_toInt
  have hwhole := n.isDecimal_whole.decimal_ofDigits
  unfold number
  rw [hfraction, hexponent, ← hwhole, ← hi]
  unfold integer at hi ⊢
  split_ifs at hi ⊢ with hminus
  · rw [hminus]
    exact Number.value_minus_decimal (hzero hminus) (by omega)
  · rw [Bool.eq_false_iff.2 hminus]
    exact Number.value_decimal (by omega)

end NumberText

section

variable {rest rest' : Bytes}

theorem ofFirst?_number {x : UInt8} (h : x = Octet.minus ∨ isDigit x = true) :
    isBlank x = false ∧ Kind.ofFirst? x = some .number := by
  rcases h with rfl | h
  · exact ⟨rfl, rfl⟩
  · exact ⟨isBlank_of_isDigit h, ofFirst?_of_isDigit h⟩

/-- An integer of 64 bits is read from a number exactly if the number is that integer. -/
theorem readInt64_number_iff (n : NumberText) (h : Number.Ends rest) {i : Int64} :
    readInt64.run (n.octets ++ rest) = .ok (i, rest') ↔
      n.IsInteger ∧ n.integer = i.toInt ∧ rest' = rest := by
  obtain ⟨first, tail, heq, hfirst, hread⟩ := n.exists_read h .valueCutOff
  obtain ⟨hblank, hkind⟩ := ofFirst?_number hfirst
  rw [heq, List.cons_append]
  constructor
  · intro hrun
    simp only [readInt64, run_bind, symbol_run hblank, hkind, if_true, hread] at hrun
    rcases hvalue : n.number.value with e | m | x
    · rw [hvalue] at hrun
      cases hrun
    · simp only [hvalue, Reader.ofExcept, run_pure] at hrun
      split_ifs at hrun with hlt
      · cases hrun
        obtain ⟨hinteger, hm⟩ := n.isInteger_of_value hvalue
        exact ⟨hinteger, by rw [hm, Int64.toInt_ofInt_of_le (Number.le_of_value hvalue) hlt], rfl⟩
      · cases hrun
    · rw [hvalue] at hrun
      cases hrun
  · rintro ⟨hinteger, hi, rfl⟩
    have hrun := readInt64_run hblank hkind hread (n.value_of_isInteger hinteger hi) i.toInt_lt
    rwa [Int64.ofInt_toInt] at hrun

end

end BearerAuth.Json
