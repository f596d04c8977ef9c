import BearerAuth.Proofs.Der.Element
import Mathlib.Data.List.Basic

/-!
# Nothing else is read

What a reader takes from the front of some octets is the written form of what it gives
(`Element.read_eq_some_iff`), so there is one way to write each length, each element and each field
that is read. Readers that are put together take what their parts take, one after another
(`bind_eq_some_iff`).
-/

namespace BearerAuth.Der

variable {b rest : Bytes}

theorem readLength_eq_some_iff {n : Nat} :
    readLength b = some (n, rest) ↔ n < lengthLimit ∧ b = writeLength n ++ rest := by
  constructor
  · intro h
    rcases b with _ | ⟨first, b⟩
    · cases h
    simp only [readLength] at h
    split_ifs at h with hshort hlong
    · rw [Option.some.injEq, Prod.mk.injEq] at h
      have hlt : first.toNat < 128 := UInt8.lt_iff_toNat_lt.1 hshort
      rw [← h.1, ← h.2, writeLength, if_pos hlt, UInt8.ofNat_toNat]
      exact ⟨Nat.lt_trans hlt (by decide), rfl⟩
    · rw [Option.some.injEq, Prod.mk.injEq] at h
      obtain ⟨-, hlimit, hwrite⟩ := hlong
      rw [← h.1, ← h.2, hwrite, List.cons_append, List.take_append_drop]
      exact ⟨hlimit, rfl⟩
  · rintro ⟨hlimit, rfl⟩
    exact readLength_writeLength hlimit rest

theorem Element.read_eq_some_iff {e : Element} :
    Element.read b = some (e, rest) ↔ e.Fits ∧ b = e.write ++ rest := by
  constructor
  · intro h
    rcases b with _ | ⟨tag, b⟩
    · cases h
    simp only [read, Option.bind_eq_bind, Option.bind_eq_some_iff, Option.guard_eq_some',
      Prod.exists, exists_const] at h
    obtain ⟨htag, n, content, hlength, hn, heq⟩ := h
    cases heq
    obtain ⟨hlimit, rfl⟩ := readLength_eq_some_iff.1 hlength
    have htake : (content.take n).length = n := List.length_take_of_le hn
    refine ⟨⟨htag, by rwa [htake]⟩, ?_⟩
    rw [write, htake, List.cons_append, List.append_assoc, List.take_append_drop]
  · rintro ⟨hfits, rfl⟩
    exact read_write hfits rest

theorem Element.exists_write_eq_cons (e : Element) (rest : Bytes) :
    ∃ w, e.write ++ rest = e.tag :: w :=
  ⟨_, rfl⟩

namespace Oid

theorem ofContent?_eq_some {content : Bytes} {o : Oid} (h : ofContent? content = some o) :
    o.octets = content := by
  unfold ofContent? at h
  split_ifs at h
  cases h
  rfl

theorem ofElement?_eq_some_iff {e : Element} {o : Oid} :
    ofElement? e = some o ↔ e = ⟨0x06, o.octets⟩ ∧ ofContent? o.octets = some o := by
  simp only [ofElement?, Option.bind_eq_bind, Option.bind_eq_some_iff, Option.guard_eq_some',
    exists_const]
  constructor
  · rintro ⟨htag, hcontent⟩
    obtain ⟨tag, content⟩ := e
    obtain rfl := ofContent?_eq_some hcontent
    exact ⟨congrArg (Element.mk · _) htag, hcontent⟩
  · rintro ⟨rfl, hcontent⟩
    exact ⟨rfl, hcontent⟩

end Oid

namespace Reader

variable {α β : Type} {r : Reader α} {x : α}

theorem bind_eq_some_iff {f : α → Reader β} {y : β} : (r >>= f) b = some (y, rest) ↔
    ∃ x later, r b = some (x, later) ∧ f x later = some (y, rest) := by
  show (r b).bind (fun p => f p.1 p.2) = _ ↔ _
  rw [Option.bind_eq_some_iff, Prod.exists]

theorem pure_eq_some_iff {y : α} :
    (pure x : Reader α) b = some (y, rest) ↔ x = y ∧ b = rest := by
  show some (x, b) = some (y, rest) ↔ _
  rw [Option.some.injEq, Prod.mk.injEq]

theorem guard_eq_some_iff {p : Prop} [Decidable p] {u : Unit} :
    (guard p : Reader Unit) b = some (u, rest) ↔ p ∧ b = rest := by
  unfold guard
  split_ifs with h
  · simp [pure_eq_some_iff, h]
  · simp only [h, false_and, iff_false]
    rintro ⟨⟩

theorem lift_eq_some_iff {o : Option α} :
    (liftM o : Reader α) b = some (x, rest) ↔ o = some x ∧ b = rest := by
  show (o.bind fun y => some (y, b)) = _ ↔ _
  simp [Option.bind_eq_some_iff]

theorem peek_eq_some_iff {tag : Option UInt8} :
    peek b = some (tag, rest) ↔ b.head? = tag ∧ b = rest := by
  show some (b.head?, b) = _ ↔ _
  rw [Option.some.injEq, Prod.mk.injEq]

theorem peek_cons (tag : UInt8) (b : Bytes) : peek (tag :: b) = some (some tag, tag :: b) := rfl

theorem all_eq_some_iff : r.all b = some x ↔ r b = some (x, []) := by
  constructor
  · intro h
    simp only [all, Option.bind_eq_bind, Option.bind_eq_some_iff, Option.guard_eq_some',
      Prod.exists, exists_const] at h
    obtain ⟨y, later, hr, hempty, heq⟩ := h
    cases heq
    rw [hr, List.isEmpty_iff.1 hempty]
  · exact all_eq_some

theorem contentOf_eq_some_iff {tag : UInt8} {content : Bytes} :
    contentOf tag b = some (content, rest) ↔
      Element.Fits ⟨tag, content⟩ ∧ b = Element.write ⟨tag, content⟩ ++ rest := by
  constructor
  · intro h
    obtain ⟨e, later, he, h⟩ := bind_eq_some_iff.1 h
    obtain ⟨_, later', hguard, h⟩ := bind_eq_some_iff.1 h
    obtain ⟨rfl, rfl⟩ := guard_eq_some_iff.1 hguard
    obtain ⟨rfl, rfl⟩ := pure_eq_some_iff.1 h
    exact Element.read_eq_some_iff.1 he
  · rintro ⟨hfits, rfl⟩
    exact contentOf_write hfits rest

theorem within_eq_some_iff {tag : UInt8} : within tag r b = some (x, rest) ↔
    ∃ content, Element.Fits ⟨tag, content⟩ ∧ b = Element.write ⟨tag, content⟩ ++ rest
      ∧ r content = some (x, []) := by
  constructor
  · intro h
    obtain ⟨content, later, hcontent, h⟩ := bind_eq_some_iff.1 h
    obtain ⟨hall, rfl⟩ := lift_eq_some_iff.1 h
    obtain ⟨hfits, rfl⟩ := contentOf_eq_some_iff.1 hcontent
    exact ⟨content, hfits, rfl, all_eq_some_iff.1 hall⟩
  · rintro ⟨content, hfits, rfl, hr⟩
    exact within_write hfits hr rest

theorem all_within_eq_some_iff {tag : UInt8} : (within tag r).all b = some x ↔
    ∃ content, Element.Fits ⟨tag, content⟩ ∧ b = Element.write ⟨tag, content⟩
      ∧ r content = some (x, []) := by
  simp only [all_eq_some_iff, within_eq_some_iff, List.append_nil]

theorem oid_eq_some_iff {o : Oid} : Oid.read b = some (o, rest) ↔
    Oid.ofContent? o.octets = some o ∧ b = Element.write ⟨0x06, o.octets⟩ ++ rest := by
  constructor
  · intro h
    obtain ⟨e, later, he, h⟩ := bind_eq_some_iff.1 h
    obtain ⟨ho, rfl⟩ := lift_eq_some_iff.1 h
    obtain ⟨rfl, hcontent⟩ := Oid.ofElement?_eq_some_iff.1 ho
    exact ⟨hcontent, (Element.read_eq_some_iff.1 he).2⟩
  · rintro ⟨ho, rfl⟩
    exact oid_write ho rest

/-- The octets of whole bits have no unused bits before them. -/
theorem wholeBits_eq_some_iff {content bits : Bytes} :
    wholeBits content = some bits ↔ content = 0 :: bits := by
  unfold wholeBits
  split
  · simp
  · rename_i hne
    simp only [reduceCtorEq, false_iff]
    exact hne bits

/-- A number that fits into an octet has one written form: a zero comes first where its sign would
be. -/
theorem smallNumber_eq_some_iff {n : Nat} : smallNumber b = some (n, rest) ↔ ∃ x : UInt8,
    x.toNat = n ∧ b = Element.write ⟨0x02, (if x < 128 then [] else [0]) ++ [x]⟩ ++ rest := by
  constructor
  · intro hsome
    obtain ⟨content, later, hcontent, h⟩ := bind_eq_some_iff.1 hsome
    obtain ⟨-, rfl⟩ := contentOf_eq_some_iff.1 hcontent
    split at h
    · rename_i x
      split_ifs at h with hx
      · obtain ⟨rfl, rfl⟩ := pure_eq_some_iff.1 h
        exact ⟨x, rfl, by rw [if_pos hx]; rfl⟩
      · cases h
    · rename_i x
      split_ifs at h with hx
      · obtain ⟨rfl, rfl⟩ := pure_eq_some_iff.1 h
        exact ⟨x, rfl, by rw [if_neg (UInt8.not_lt.2 hx)]; rfl⟩
      · cases h
    · cases h
  · rintro ⟨x, rfl, rfl⟩
    split_ifs with hx
    · exact smallNumber_write hx rest
    · have hfits : Element.Fits ⟨0x02, [0, x]⟩ := ⟨rfl, show 2 < lengthLimit by decide⟩
      rw [smallNumber, List.cons_append, List.nil_append, bind_eq (contentOf_write hfits rest)]
      simp only [if_pos (UInt8.not_lt.1 hx)]
      rfl

section Field

variable {number tag : UInt8} {found : Option α}

/-- Where the search for a field ends: at the end of the octets or before a field that comes later,
or at the field, which is then read. -/
inductive FieldEnds (number : UInt8) (r : Reader α) (b : Bytes) : Option α → Bytes → Prop
  | absent (h : ∀ tag ∈ b.head?, isTag tag = true ∧ (tag / 64 ≠ 2 ∨ number < tag % 32)) :
    FieldEnds number r b none b
  | present {tag : UInt8} {x : α} {rest : Bytes} (h : tag ∈ b.head?) (htag : isTag tag = true)
    (hclass : tag / 64 = 2) (hnumber : tag % 32 = number) (hr : r b = some (x, rest)) :
    FieldEnds number r b (some x) rest

/-- A field that the search for one of a number passes over. -/
structure IsPassed (number : UInt8) (e : Element) : Prop where
  fits : e.Fits
  isContext : e.tag / 64 = 2
  number_lt : e.tag % 32 < number

theorem field_cons (htag : isTag tag = true) (fuel : Nat) : field number r (fuel + 1) (tag :: b) =
    (if tag / 64 ≠ 2 ∨ number < tag % 32 then pure none
      else if tag % 32 = number then some <$> r
      else element >>= fun _ => field number r fuel) (tag :: b) := by
  rw [field, bind_eq (peek_cons tag b)]
  exact bind_eq (guard_eq htag _)

theorem isTag_of_field_cons {fuel : Nat} (h : field number r fuel (tag :: b) = some (found, rest)) :
    isTag tag = true := by
  rcases fuel with _ | fuel
  · cases h
  rw [field, bind_eq (peek_cons tag b)] at h
  obtain ⟨_, later, hguard, -⟩ := bind_eq_some_iff.1 h
  exact (guard_eq_some_iff.1 hguard).1

theorem exists_of_field : ∀ {fuel : Nat} {b : Bytes},
    field number r fuel b = some (found, rest) → ∃ (passed : List Element) (later : Bytes),
      b = passed.flatMap Element.write ++ later ∧ (∀ e ∈ passed, IsPassed number e)
        ∧ FieldEnds number r later found rest
  | 0, _, h => by cases h
  | fuel + 1, [], h => by
    cases h
    exact ⟨[], [], rfl, by simp, .absent (by simp)⟩
  | fuel + 1, tag :: b, h => by
    have htag := isTag_of_field_cons h
    rw [field_cons htag] at h
    split_ifs at h with hlater hhere
    · obtain ⟨rfl, rfl⟩ := pure_eq_some_iff.1 h
      refine ⟨[], tag :: b, rfl, by simp, .absent fun t ht => ?_⟩
      cases ht
      exact ⟨htag, hlater⟩
    · rw [not_or, not_not] at hlater
      rw [map_eq_pure_bind] at h
      obtain ⟨x, later, hr, h⟩ := bind_eq_some_iff.1 h
      obtain ⟨rfl, rfl⟩ := pure_eq_some_iff.1 h
      exact ⟨[], tag :: b, rfl, by simp, .present rfl htag hlater.1 hhere hr⟩
    · rw [not_or, not_not, UInt8.not_lt] at hlater
      obtain ⟨e, later, he, h⟩ := bind_eq_some_iff.1 h
      obtain ⟨hfits, hb⟩ := Element.read_eq_some_iff.1 he
      obtain ⟨passed, last, rfl, hpassed, hends⟩ := exists_of_field h
      obtain rfl : tag = e.tag := (List.cons.inj hb).1
      refine ⟨e :: passed, last, ?_, ?_, hends⟩
      · rw [hb, List.flatMap_cons, List.append_assoc]
      · rw [List.forall_mem_cons]
        exact ⟨⟨hfits, hlater.1, UInt8.lt_of_le_of_ne hlater.2 hhere⟩, hpassed⟩

theorem field_of_ends {later : Bytes} (h : FieldEnds number r later found rest) (fuel : Nat) :
    field number r (fuel + 1) later = some (found, rest) := by
  cases h with
  | absent h =>
    rcases rest with _ | ⟨tag, later⟩
    · rfl
    · obtain ⟨htag, hlater⟩ := h tag rfl
      rw [field_cons htag, if_pos hlater]
      rfl
  | @present tag x rest htag htag' hclass hnumber hr =>
    rcases later with _ | ⟨tag', later⟩
    · cases htag
    cases htag
    have hhere : ¬(tag / 64 ≠ 2 ∨ number < tag % 32) := by
      rw [hnumber]
      rintro (h | h)
      · exact h hclass
      · exact UInt8.lt_irrefl _ h
    rw [field_cons htag', if_neg hhere, if_pos hnumber, map_eq_pure_bind, bind_eq hr]
    rfl

theorem field_of_passed {later : Bytes} (h : FieldEnds number r later found rest) :
    ∀ {passed : List Element} {fuel : Nat}, (∀ e ∈ passed, IsPassed number e) →
      passed.length < fuel →
        field number r fuel (passed.flatMap Element.write ++ later) = some (found, rest)
  | _, 0, _, hfuel => absurd hfuel (Nat.not_lt_zero _)
  | [], fuel + 1, _, _ => field_of_ends h fuel
  | e :: passed, fuel + 1, hpassed, hfuel => by
    rw [List.forall_mem_cons] at hpassed
    obtain ⟨⟨hfits, hclass, hnumber⟩, hpassed⟩ := hpassed
    have hread := Element.read_write hfits (passed.flatMap Element.write ++ later)
    obtain ⟨w, hw⟩ := e.exists_write_eq_cons (passed.flatMap Element.write ++ later)
    have hearlier : ¬(e.tag / 64 ≠ 2 ∨ number < e.tag % 32) := by
      rintro (h | h)
      · exact h hclass
      · exact UInt8.lt_irrefl _ (UInt8.lt_trans h hnumber)
    rw [List.flatMap_cons, List.append_assoc]
    rw [hw] at hread ⊢
    rw [field_cons hfits.tag, if_neg hearlier, if_neg (UInt8.ne_of_lt hnumber),
      bind_eq (r := element) hread]
    exact field_of_passed h hpassed (Nat.lt_of_succ_lt_succ hfuel)

theorem length_le_length_flatMap_write (es : List Element) :
    es.length ≤ (es.flatMap Element.write).length := by
  induction es with
  | nil => exact Nat.le_refl _
  | cons e es ih =>
    have := e.length_content_lt
    rw [List.flatMap_cons, List.length_append, List.length_cons]
    omega

theorem fieldOf_eq_some_iff : fieldOf number r b = some (found, rest) ↔
    ∃ (passed : List Element) (later : Bytes), b = passed.flatMap Element.write ++ later
      ∧ (∀ e ∈ passed, IsPassed number e) ∧ FieldEnds number r later found rest := by
  have hget : (get : Reader Bytes) b = some (b, b) := rfl
  rw [fieldOf, bind_eq hget]
  constructor
  · exact exists_of_field
  · rintro ⟨passed, later, rfl, hpassed, hends⟩
    refine field_of_passed hends hpassed ?_
    have := length_le_length_flatMap_write passed
    rw [List.length_append]
    omega

end Field

section Extensions

/-- A field of the context-specific class that holds one element. -/
structure IsExtension (e : Element) : Prop where
  fits : e.Fits
  isContext : e.tag / 32 = 5
  content : ∃ inner : Element, inner.Fits ∧ e.content = inner.write

theorem element_eq_some_iff_of_all {content : Bytes} : (∃ inner, element content = some (inner, []))
    ↔ ∃ inner : Element, inner.Fits ∧ content = inner.write := by
  have hread : ∀ inner, element content = some (inner, []) ↔ inner.Fits ∧ content = inner.write :=
    fun inner => by
      rw [← List.append_nil inner.write]
      exact Element.read_eq_some_iff
  simp only [hread]

theorem remainingFields_cons {tag : UInt8} (htag : isTag tag = true) (hcontext : tag / 32 = 5)
    (fuel : Nat) : remainingFields (fuel + 1) (tag :: b)
      = (within tag element >>= fun _ => remainingFields fuel) (tag :: b) := by
  rw [remainingFields, bind_eq (peek_cons tag b)]
  exact bind_eq (guard_eq (by simp [htag, hcontext]) _)

theorem of_remainingFields : ∀ {fuel : Nat} {b rest : Bytes} {u : Unit},
    remainingFields fuel b = some (u, rest) → rest = [] ∧ ∃ es : List Element,
      b = es.flatMap Element.write ∧ ∀ e ∈ es, IsExtension e
  | 0, _, _, _, h => by cases h
  | fuel + 1, [], _, _, h => by
    cases h
    exact ⟨rfl, [], rfl, by simp⟩
  | fuel + 1, tag :: b, _, _, h => by
    rw [remainingFields, bind_eq (peek_cons tag b)] at h
    obtain ⟨_, later, hguard, h⟩ := bind_eq_some_iff.1 h
    obtain ⟨htag, rfl⟩ := guard_eq_some_iff.1 hguard
    rw [Bool.and_eq_true, beq_iff_eq] at htag
    obtain ⟨inner, later, hwithin, h⟩ := bind_eq_some_iff.1 h
    obtain ⟨content, hfits, hb, hinner⟩ := within_eq_some_iff.1 hwithin
    obtain ⟨rfl, es, rfl, hes⟩ := of_remainingFields h
    refine ⟨rfl, ⟨tag, content⟩ :: es, by rw [hb, List.flatMap_cons], ?_⟩
    rw [List.forall_mem_cons]
    exact ⟨⟨hfits, htag.2, element_eq_some_iff_of_all.1 ⟨inner, hinner⟩⟩, hes⟩

theorem remainingFields_extensions : ∀ {es : List Element} {fuel : Nat},
    (∀ e ∈ es, IsExtension e) → es.length < fuel →
      remainingFields fuel (es.flatMap Element.write) = some ((), [])
  | _, 0, _, hfuel => absurd hfuel (Nat.not_lt_zero _)
  | [], fuel + 1, _, _ => rfl
  | ⟨tag, content⟩ :: es, fuel + 1, hes, hfuel => by
    rw [List.forall_mem_cons] at hes
    obtain ⟨⟨hfits, hcontext, hcontent⟩, hes⟩ := hes
    obtain ⟨inner, hinner⟩ := element_eq_some_iff_of_all.2 hcontent
    have hwithin := within_write hfits hinner (es.flatMap Element.write)
    obtain ⟨w, hw⟩ := Element.exists_write_eq_cons ⟨tag, content⟩ (es.flatMap Element.write)
    rw [List.flatMap_cons]
    rw [hw] at hwithin ⊢
    rw [remainingFields_cons hfits.tag hcontext, bind_eq hwithin]
    exact remainingFields_extensions hes (Nat.lt_of_succ_lt_succ hfuel)

/-- Enough steps to pass over all fields that there can be. -/
theorem remainingFields_eq_some_iff {u : Unit} : remainingFields (b.length + 1) b = some (u, rest) ↔
    rest = [] ∧ ∃ es : List Element, b = es.flatMap Element.write ∧ ∀ e ∈ es, IsExtension e := by
  constructor
  · exact of_remainingFields
  · rintro ⟨rfl, es, rfl, hes⟩
    exact remainingFields_extensions hes
      (Nat.lt_succ_of_le (length_le_length_flatMap_write es))

end Extensions

end Reader

end BearerAuth.Der
