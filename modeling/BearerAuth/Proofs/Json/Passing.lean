import BearerAuth.Proofs.Json.Denotation
import BearerAuth.Proofs.Json.Record

/-!
# Well-formed values are passed over

The brackets that are open do not matter to a value: from where it begins one gets to where it ends,
under the same brackets (`IsPassed`). What a bracket has opened is passed over part by part
(`IsPassedIn`, `skipFrom_joined`), so every well-formed value is passed over by induction on its
grammar, however deep it nests (`IsValue.isPassed`, `skipValue_run`).
-/

namespace BearerAuth.Json

open Reader

variable {α : Type} {s rest : Bytes} {b : Bytes}

theorem next_blanks (hb : IsBlanks b) (s : Bytes) : next.run (b ++ s) = next.run s := by
  simp only [next, run_bind, takeWhile, List.dropWhile_append_of_pos hb]

theorem next_cons {x : UInt8} (hx : isBlank x = false) (s : Bytes) :
    next.run (x :: s) = .ok (some x, x :: s) := by
  simp [next, takeWhile, peek, hx]

/-- Whether a reader does not care for blanks before what it reads. -/
def Reader.PassesBlanks (r : Reader α) : Prop :=
  ∀ {b : Bytes}, IsBlanks b → ∀ s, r.run (b ++ s) = r.run s

theorem passesBlanks_symbol_bind (f : Option UInt8 → Reader α) : (symbol >>= f).PassesBlanks := by
  intro b hb s
  simp only [symbol, run_bind, takeWhile, List.dropWhile_append_of_pos hb]

theorem passesBlanks_skipStart : skipStart.PassesBlanks := passesBlanks_symbol_bind _

theorem passesBlanks_readColon : readColon.PassesBlanks := passesBlanks_symbol_bind _

theorem passesBlanks_skipKey : skipKey.PassesBlanks := passesBlanks_symbol_bind _

theorem passesBlanks_readKeyLiteral : readKeyLiteral.PassesBlanks := passesBlanks_symbol_bind _

theorem passesBlanks_readString : readString.PassesBlanks := passesBlanks_symbol_bind _

theorem passesBlanks_readInt64 : readInt64.PassesBlanks := passesBlanks_symbol_bind _

theorem skipFrom_value (stack : List Bracket) (s : Bytes) : skipFrom .value stack s =
    match skipStart.run s with
    | .error e => .error e
    | .ok (none, rest) => skipFrom (.inside true) stack rest
    | .ok (some b, rest) => skipFrom (.inside false) (b :: stack) rest := by
  rw [skipFrom]
  split <;> simp_all

theorem skipFrom_inside (before : Bool) (b : Bracket) (stack : List Bracket) (s : Bytes) :
    skipFrom (.inside before) (b :: stack) s =
      match next.run s with
      | .error e => .error e
      | .ok (none, _) => .error b.cutOff
      | .ok (some x, rest) =>
        if x = b.close then skipFrom (.inside true) stack rest.tail
        else
          match (skipSeparator b !before).run rest with
          | .error e => .error e
          | .ok (_, rest) => skipFrom .value (b :: stack) rest := by
  rw [skipFrom]
  split
  · simp_all
  · simp_all
  · rename_i x rest hnext
    simp only [hnext]
    split_ifs
    · rfl
    · split <;> simp_all

theorem skipFrom_value_blanks (hb : IsBlanks b) (stack : List Bracket) (s : Bytes) :
    skipFrom .value stack (b ++ s) = skipFrom .value stack s := by
  rw [skipFrom_value, skipFrom_value, passesBlanks_skipStart hb]

theorem skipFrom_inside_blanks (hb : IsBlanks b) (before : Bool) (bracket : Bracket)
    (stack : List Bracket) (s : Bytes) :
    skipFrom (.inside before) (bracket :: stack) (b ++ s)
      = skipFrom (.inside before) (bracket :: stack) s := by
  rw [skipFrom_inside, skipFrom_inside, next_blanks hb]

theorem skipFrom_close (before : Bool) (b : Bracket) (stack : List Bracket) (rest : Bytes) :
    skipFrom (.inside before) (b :: stack) (b.close :: rest)
      = skipFrom (.inside true) stack rest := by
  have hclose : isBlank b.close = false := by cases b <;> rfl
  simp only [skipFrom_inside, next_cons hclose, if_true, List.tail_cons]

theorem skipFrom_part {first : Bool} {b : Bracket} {stack : List Bracket} {x : UInt8}
    (hblank : isBlank x = false) (hclose : x ≠ b.close)
    (h : (skipSeparator b first).run (x :: s) = .ok ((), rest)) :
    skipFrom (.inside !first) (b :: stack) (x :: s) = skipFrom .value (b :: stack) rest := by
  simp only [skipFrom_inside, next_cons hblank, if_neg hclose, Bool.not_not, h]

/-- A kind of value, if the octet begins one, is no blank and closes nothing. -/
theorem ne_of_ofFirst? {x : UInt8} {k : Kind} (h : Kind.ofFirst? x = some k) :
    isBlank x = false ∧ ∀ b : Bracket, x ≠ b.close := by
  constructor
  · rw [Bool.eq_false_iff]
    intro hblank
    simp only [isBlank, Bool.or_eq_true, beq_iff_eq] at hblank
    rcases hblank with ((rfl | rfl) | rfl) | rfl <;> cases h
  · intro b
    cases b <;> rintro rfl <;> cases h

theorem StringText.octets_append (t : StringText) (rest : Bytes) :
    t.octets ++ rest = Octet.quote :: (t.inside ++ Octet.quote :: rest) := by
  simp [octets]

theorem skipStart_number (n : NumberText) (h : Number.Ends rest) :
    skipStart.run (n.octets ++ rest) = .ok (none, rest) := by
  obtain ⟨first, tail, heq, hfirst, hread⟩ := n.exists_read h .invalidNumber
  obtain ⟨hblank, hkind⟩ := ofFirst?_number hfirst
  rw [heq, List.cons_append]
  simp only [skipStart, run_bind, symbol_run hblank, hkind]
  show ((fun _ => none) <$> Number.read first .invalidNumber : Reader (Option Bracket)).run _ = _
  rw [run_map, hread]

theorem skipStart_string (t : StringText) (rest : Bytes) :
    skipStart.run (t.octets ++ rest) = .ok (none, rest) := by
  have hquote : ∀ s, skipStart.run (Octet.quote :: s)
      = ((fun _ => none) <$> Literal.skip : Reader (Option Bracket)).run s := fun s => rfl
  rw [t.octets_append, hquote, run_map, Literal.skip_of_denotes t.denotes]

theorem skipSeparator_comma (b : Bracket) (s : Bytes) :
    (skipSeparator b false).run (Octet.comma :: s) = (skipSeparator b true).run s := by
  cases b <;> rfl

theorem skipSeparator_list (s : Bytes) : (skipSeparator .list true).run s = .ok ((), s) := rfl

theorem readColon_run {between : Bytes} (h : IsBlanks between) (s : Bytes) :
    readColon.run (between ++ Octet.colon :: s) = .ok ((), s) := by
  rw [passesBlanks_readColon h]
  rfl

theorem skipSeparator_member (m : Member) (rest : Bytes) :
    (skipSeparator .object true).run (m.octets ++ rest) = .ok ((), m.item.octets ++ rest) := by
  have hquote : ∀ s, skipKey.run (Octet.quote :: s) = (Literal.skip >>= fun _ => readColon).run s :=
    fun s => rfl
  show skipKey.run _ = _
  rw [Member.octets, List.append_assoc, passesBlanks_skipKey m.before.property, List.append_assoc,
    m.key.octets_append, hquote, run_bind, Literal.skip_of_denotes m.key.denotes]
  simp only [Member.fromColon, List.append_assoc, List.cons_append,
    readColon_run m.between.property]

theorem joined_cons (part : Bytes) (later : List Bytes) :
    joined (part :: later) = part ++ later.flatMap (Octet.comma :: ·) := by
  induction later generalizing part with
  | nil => rw [joined, List.flatMap_nil, List.append_nil]
  | cons next later ih =>
    rw [joined, ih, List.flatMap_cons]
    · rfl
    · exact List.cons_ne_nil _ _

/-- What may follow a part inside brackets cannot go on with a number. -/
theorem ends_cons {x : UInt8} (h : x = Octet.comma ∨ x = Octet.closeList ∨ x = Octet.closeObject)
    (s : Bytes) : Number.Ends (x :: s) := by
  intro y hy
  cases hy
  rcases h with rfl | rfl | rfl <;> decide

theorem ends_blanks_append (hb : IsBlanks b) (h : Number.Ends rest) : Number.Ends (b ++ rest) := by
  cases b with
  | nil => exact h
  | cons x b => exact fun y hy => Number.ends_of_isBlanks hb y hy

/-- Whether octets are passed over to where they end, as a part of what a bracket has opened. -/
def IsPassedIn (bracket : Bracket) (part : Bytes) : Prop :=
  ∀ (first : Bool) (stack : List Bracket) {rest : Bytes}, Number.Ends rest →
    skipFrom (.inside !first) (bracket :: stack) (separator first ++ (part ++ rest))
      = skipFrom (.inside true) (bracket :: stack) rest

theorem ends_parts (bracket : Bracket) (parts : List Bytes) (rest : Bytes) :
    Number.Ends (parts.flatMap (Octet.comma :: ·) ++ bracket.close :: rest) := by
  cases parts with
  | nil => cases bracket <;> exact ends_cons (by decide) _
  | cons part later => exact ends_cons (.inl rfl) _

section Parts

variable {bracket : Bracket} {parts : List Bytes} (h : ∀ part ∈ parts, IsPassedIn bracket part)
  (stack : List Bracket) (rest : Bytes)
include h

theorem skipFrom_parts : skipFrom (.inside true) (bracket :: stack)
    (parts.flatMap (Octet.comma :: ·) ++ bracket.close :: rest)
      = skipFrom (.inside true) stack rest := by
  induction parts with
  | nil => exact skipFrom_close true bracket stack rest
  | cons part later ih =>
    have hpart := h part List.mem_cons_self false stack (ends_parts bracket later rest)
    rw [List.flatMap_cons, List.append_assoc]
    exact hpart.trans (ih fun p hp => h p (List.mem_cons_of_mem part hp))

/-- What a bracket has opened is passed over to the end, if each part of it is. -/
theorem skipFrom_joined (hb : IsBlanks b) : skipFrom (.inside false) (bracket :: stack)
    (b ++ (joined parts ++ bracket.close :: rest)) = skipFrom (.inside true) stack rest := by
  rw [skipFrom_inside_blanks hb]
  cases parts with
  | nil => exact skipFrom_close false bracket stack rest
  | cons part later =>
    have hpart := h part List.mem_cons_self true stack (ends_parts bracket later rest)
    rw [joined_cons, List.append_assoc]
    exact hpart.trans (skipFrom_parts (fun p hp => h p (List.mem_cons_of_mem part hp)) stack rest)

end Parts

/-- Whether octets are passed over to where they end, as a value. -/
def IsPassed (value : Bytes) : Prop :=
  ∀ (stack : List Bracket) {rest : Bytes}, Number.Ends rest →
    skipFrom .value stack (value ++ rest) = skipFrom (.inside true) stack rest

theorem Item.skipFrom_octets (i : Item) (h : IsPassed i.value) (bracket : Bracket)
    (stack : List Bracket) (hrest : Number.Ends rest) :
    skipFrom .value (bracket :: stack) (i.octets ++ rest)
      = skipFrom (.inside true) (bracket :: stack) rest := by
  rw [Item.octets, List.append_assoc, skipFrom_value_blanks i.before.property, List.append_assoc,
    h _ (ends_blanks_append i.after.property hrest), skipFrom_inside_blanks i.after.property]

theorem Item.isPassedIn {i : Item} (h : IsPassed i.value) {x : UInt8} {tail : Bytes}
    (hvalue : i.value = x :: tail) (hblank : isBlank x = false) (hclose : x ≠ Bracket.list.close) :
    IsPassedIn .list i.octets := by
  intro first stack rest hrest
  cases first with
  | true =>
    have heq : i.octets ++ rest = i.before.val ++ x :: (tail ++ (i.after.val ++ rest)) := by
      simp [Item.octets, hvalue]
    have hpassed := h (.list :: stack) (ends_blanks_append i.after.property hrest)
    rw [hvalue, List.cons_append, skipFrom_inside_blanks i.after.property] at hpassed
    show skipFrom (.inside !true) (.list :: stack) (i.octets ++ rest) = _
    rw [heq, skipFrom_inside_blanks i.before.property,
      skipFrom_part hblank hclose (skipSeparator_list _), hpassed]
  | false =>
    have hcomma := (skipSeparator_comma .list (i.octets ++ rest)).trans (skipSeparator_list _)
    exact (skipFrom_part rfl (by decide) hcomma).trans (i.skipFrom_octets h _ stack hrest)

theorem Member.isPassedIn {m : Member} (h : IsPassed m.item.value) :
    IsPassedIn .object m.octets := by
  intro first stack rest hrest
  have hmember := skipSeparator_member m rest
  have hpassed := m.item.skipFrom_octets h .object stack hrest
  cases first with
  | true =>
    have heq : m.octets ++ rest = m.before.val
        ++ Octet.quote :: (m.key.inside ++ Octet.quote :: (m.fromColon ++ rest)) := by
      simp [Member.octets, StringText.octets]
    have hkey : (skipSeparator .object true).run
        (Octet.quote :: (m.key.inside ++ Octet.quote :: (m.fromColon ++ rest)))
          = .ok ((), m.item.octets ++ rest) := by
      rw [← hmember, heq]
      exact (passesBlanks_skipKey m.before.property _).symm
    show skipFrom (.inside !true) (.object :: stack) (m.octets ++ rest) = _
    rw [heq, skipFrom_inside_blanks m.before.property, skipFrom_part rfl (by decide) hkey, hpassed]
  | false =>
    have hcomma := (skipSeparator_comma .object (m.octets ++ rest)).trans hmember
    exact (skipFrom_part rfl (by decide) hcomma).trans hpassed

/-- The first octet of a value tells its kind. -/
theorem IsValue.exists_cons {v : Bytes} (h : IsValue v) : ∃ x tail k, v = x :: tail
    ∧ Kind.ofFirst? x = some k ∧ (k = .string → ∃ t : StringText, v = t.octets)
    ∧ (k = .number → ∃ n : NumberText, v = n.octets) := by
  cases h with
  | null => exact ⟨_, _, .null, rfl, rfl, nofun, nofun⟩
  | yes => exact ⟨_, _, .yes, rfl, rfl, nofun, nofun⟩
  | no => exact ⟨_, _, .no, rfl, rfl, nofun, nofun⟩
  | number n =>
    obtain ⟨first, tail, heq, hfirst⟩ := n.exists_cons
    exact ⟨first, tail, .number, heq, (ofFirst?_number hfirst).2, nofun, fun _ => ⟨n, rfl⟩⟩
  | string t => exact ⟨_, _, .string, rfl, rfl, fun _ => ⟨t, rfl⟩, nofun⟩
  | list blanks h => exact ⟨_, _, .list, rfl, rfl, nofun, nofun⟩
  | object blanks h => exact ⟨_, _, .object, rfl, rfl, nofun, nofun⟩

theorem skipFrom_start_none {stack : List Bracket} (h : skipStart.run s = .ok (none, rest)) :
    skipFrom .value stack s = skipFrom (.inside true) stack rest := by
  rw [skipFrom_value, h]

theorem skipFrom_start_some {stack : List Bracket} {bracket : Bracket}
    (h : skipStart.run s = .ok (some bracket, rest)) :
    skipFrom .value stack s = skipFrom (.inside false) (bracket :: stack) rest := by
  rw [skipFrom_value, h]

/-- A well-formed value is passed over, however deep it nests. -/
theorem IsValue.isPassed {v : Bytes} (h : IsValue v) : IsPassed v := by
  induction h with
  | null | yes | no => exact fun stack rest _ => skipFrom_start_none rfl
  | number n => exact fun stack rest hrest => skipFrom_start_none (skipStart_number n hrest)
  | string t => exact fun stack rest _ => skipFrom_start_none (skipStart_string t rest)
  | @list blanks items h ih =>
    intro stack rest _
    have hparts : ∀ part ∈ items.map Item.octets, IsPassedIn .list part := by
      intro part hpart
      obtain ⟨i, hi, rfl⟩ := List.mem_map.1 hpart
      obtain ⟨x, tail, k, hvalue, hkind, -⟩ := (h i hi).exists_cons
      obtain ⟨hblank, hclose⟩ := ne_of_ofFirst? hkind
      exact Item.isPassedIn (ih i hi) hvalue hblank (hclose .list)
    rw [List.cons_append, List.append_assoc, List.append_assoc]
    exact (skipFrom_start_some rfl).trans (skipFrom_joined hparts stack rest blanks.property)
  | @object blanks members h ih =>
    intro stack rest _
    have hparts : ∀ part ∈ members.map Member.octets, IsPassedIn .object part := by
      intro part hpart
      obtain ⟨m, hm, rfl⟩ := List.mem_map.1 hpart
      exact Member.isPassedIn (ih m hm)
    rw [List.cons_append, List.append_assoc, List.append_assoc]
    exact (skipFrom_start_some rfl).trans (skipFrom_joined hparts stack rest blanks.property)

theorem skipValue_run {v : Bytes} (h : IsValue v) (hb : IsBlanks b) (hrest : Number.Ends rest) :
    skipValue.run (b ++ (v ++ rest)) = .ok ((), rest) := by
  have hskip : skipFrom .value [] (b ++ (v ++ rest)) = .ok rest := by
    rw [skipFrom_value_blanks hb, h.isPassed [] hrest, skipFrom]
  rw [skipValue]
  show (((), ·) <$> skipFrom .value [] (b ++ (v ++ rest)) : Except ReadError (Unit × Bytes)) = _
  rw [hskip]
  rfl

end BearerAuth.Json
