import BearerAuth.Proofs.Json.Passing

/-!
# Fields of an object

A reader of values may take those that denote something, and no others (`Reader.Reads`): one of
strings does (`reads_readString`), and one of integers (`reads_readInt64`). A field is then what the
values of its name make of it one after the other (`Holds`), which is nothing for no value, what it
denotes for one, and a refusal for more (`holds_none_iff`). A record of two fields reads from the
members of an object just these, since other members are passed over (`members_iff`).
-/

namespace BearerAuth.Json

open Reader

variable {α β σ : Type} {s rest t : Bytes}

theorem membersFrom_eq (member : σ → String → Reader σ) (first : Bool) (a : σ) (s : Bytes) :
    membersFrom member first a s =
      match next.run s with
      | .error e => .error e
      | .ok (none, _) => .error .objectCutOff
      | .ok (some x, rest) =>
        if x = Octet.closeObject then .ok (a, rest.tail)
        else
          match (readKey first >>= member a).run rest with
          | .error e => .error e
          | .ok (b, rest) => membersFrom member false b rest := by
  rw [membersFrom]
  split
  · simp_all
  · simp_all
  · rename_i x rest hnext
    simp only [hnext]
    split_ifs
    · rfl
    · split <;> simp_all

theorem membersFrom_blanks {b : Bytes} (hb : IsBlanks b) (member : σ → String → Reader σ)
    (first : Bool) (a : σ) (s : Bytes) :
    membersFrom member first a (b ++ s) = membersFrom member first a s := by
  rw [membersFrom_eq, membersFrom_eq, next_blanks hb]

theorem readKeyLiteral_run (m : Member) (rest : Bytes) :
    readKeyLiteral.run (m.octets ++ rest) = .ok (m.key.denoted, m.fromColon ++ rest) := by
  have hquote : ∀ s, readKeyLiteral.run (Octet.quote :: s) = Literal.read.run s := fun s => rfl
  rw [Member.octets, List.append_assoc, passesBlanks_readKeyLiteral m.before.property,
    List.append_assoc, m.key.octets_append, hquote, Literal.read_of_denotes m.key.denotes]

theorem readKey_member (first : Bool) (m : Member) (rest : Bytes) :
    (readKey first).run (separator first ++ (m.octets ++ rest))
      = .ok (m.key.denoted, m.fromColon ++ rest) := by
  cases first with
  | true => exact readKeyLiteral_run m rest
  | false =>
    have hcomma : readMemberComma.run (separator false ++ (m.octets ++ rest))
        = .ok ((), m.octets ++ rest) := rfl
    rw [readKey, run_bind, hcomma]
    exact readKeyLiteral_run m rest

/-- A member is read by its reader, from the colon on, and then those after it. -/
theorem membersFrom_member (member : σ → String → Reader σ) (first : Bool) (a : σ) (m : Member)
    (rest : Bytes) : membersFrom member first a (separator first ++ (m.octets ++ rest)) =
      match (member a m.key.denoted).run (m.fromColon ++ rest) with
      | .error e => .error e
      | .ok (b, t) => membersFrom member false b t := by
  have hkey := readKey_member first m rest
  cases first with
  | true =>
    have heq : m.octets ++ rest = m.before.val
        ++ Octet.quote :: (m.key.inside ++ Octet.quote :: (m.fromColon ++ rest)) := by
      simp [Member.octets, StringText.octets]
    have hstrip : (readKey true).run
        (Octet.quote :: (m.key.inside ++ Octet.quote :: (m.fromColon ++ rest)))
          = .ok (m.key.denoted, m.fromColon ++ rest) := by
      rw [← hkey]
      show readKeyLiteral.run _ = readKeyLiteral.run (m.octets ++ rest)
      rw [heq, passesBlanks_readKeyLiteral m.before.property]
    show membersFrom member true a (m.octets ++ rest) = _
    rw [heq, membersFrom_blanks m.before.property, membersFrom_eq, next_cons rfl]
    simp only [if_neg (show ¬ Octet.quote = Octet.closeObject by decide), run_bind, hstrip]
  | false =>
    have hnext : next.run (separator false ++ (m.octets ++ rest))
        = .ok (some Octet.comma, separator false ++ (m.octets ++ rest)) := rfl
    rw [membersFrom_eq, hnext]
    simp only [if_neg (show ¬ Octet.comma = Octet.closeObject by decide), run_bind, hkey]

/-- Whether a reader takes well-formed values that denote something as what they denote, and no
others. -/
structure Reader.Reads (r : Reader α) (denotes : Bytes → α → Prop) : Prop where
  passesBlanks : r.PassesBlanks
  run_eq_ok_iff : ∀ {v rest t : Bytes} {a : α}, IsValue v → Number.Ends rest →
    (r.run (v ++ rest) = .ok (a, t) ↔ denotes v a ∧ t = rest)

theorem refuseFound_ne_ok (x : UInt8) (wanted : String) (s : Bytes) (p : α × Bytes) :
    (refuseFound x wanted).run s ≠ .ok p := by
  unfold refuseFound
  intro h
  obtain ⟨found, t, -, h⟩ := run_bind_eq_ok_iff.1 h
  cases h

theorem readString_of_ne {x : UInt8} (hblank : isBlank x = false) (hne : x ≠ Octet.quote)
    (s : Bytes) (p : String × Bytes) : readString.run (x :: s) ≠ .ok p := by
  simp only [readString, run_bind, symbol_run hblank]
  split
  · rename_i h
    cases h
  · rename_i h
    cases h
    exact absurd rfl hne
  · exact refuseFound_ne_ok _ _ _ _

theorem readInt64_of_ne {x : UInt8} (hblank : isBlank x = false)
    (hne : Kind.ofFirst? x ≠ some .number) (s : Bytes) (p : Int64 × Bytes) :
    readInt64.run (x :: s) ≠ .ok p := by
  simp only [readInt64, run_bind, symbol_run hblank, if_neg hne]
  exact refuseFound_ne_ok _ _ _ _

theorem reads_readString : Reader.Reads readString DenotesText where
  passesBlanks := passesBlanks_readString
  run_eq_ok_iff {v rest t a} hv _ := by
    obtain ⟨x, tail, k, heq, hkind, hstring, -⟩ := hv.exists_cons
    by_cases hk : k = .string
    · obtain ⟨text, rfl⟩ := hstring hk
      have hquote : ∀ s, readString.run (Octet.quote :: s) = Literal.read.run s := fun s => rfl
      have hread : readString.run (text.octets ++ rest) = .ok (text.denoted, rest) := by
        rw [text.octets_append, hquote, Literal.read_of_denotes text.denotes]
      rw [hread]
      constructor
      · intro h
        cases h
        exact ⟨⟨text, rfl, rfl⟩, rfl⟩
      · rintro ⟨⟨text', heq', rfl⟩, rfl⟩
        rw [heq', text'.octets_append, hquote, Literal.read_of_denotes text'.denotes] at hread
        exact hread.symm
    · have hne : x ≠ Octet.quote := by
        rintro rfl
        cases hkind
        exact hk rfl
      refine iff_of_false ?_ ?_
      · rw [heq]
        exact readString_of_ne (ne_of_ofFirst? hkind).1 hne _ _
      · rintro ⟨⟨text, htext, -⟩, -⟩
        rw [heq] at htext
        exact hne (List.cons.inj htext).1

theorem reads_readInt64 : Reader.Reads readInt64 DenotesInteger where
  passesBlanks := passesBlanks_readInt64
  run_eq_ok_iff {v rest t i} hv hrest := by
    obtain ⟨x, tail, k, heq, hkind, -, hnumber⟩ := hv.exists_cons
    by_cases hk : k = .number
    · obtain ⟨n, rfl⟩ := hnumber hk
      constructor
      · intro h
        obtain ⟨hinteger, hi, ht⟩ := (readInt64_number_iff n hrest).1 h
        exact ⟨⟨n, rfl, hinteger, hi⟩, ht⟩
      · rintro ⟨⟨n', heq', hinteger, hi⟩, rfl⟩
        rw [heq']
        exact (readInt64_number_iff n' hrest).2 ⟨hinteger, hi, rfl⟩
    · have hne : Kind.ofFirst? x ≠ some .number := by
        rw [hkind]
        exact fun h => hk (Option.some.inj h)
      refine iff_of_false ?_ ?_
      · rw [heq]
        exact readInt64_of_ne (ne_of_ofFirst? hkind).1 hne _ _
      · rintro ⟨⟨n, hn, -⟩, -⟩
        obtain ⟨first, tail', heq', hfirst⟩ := n.exists_cons
        rw [heq, heq'] at hn
        rw [(List.cons.inj hn).1] at hne
        exact hne (ofFirst?_number hfirst).2

section Fields

variable {r : Reader α} {denotes : Bytes → α → Prop} {m : Member}

theorem readColon_member (m : Member) (rest : Bytes) :
    readColon.run (m.fromColon ++ rest) = .ok ((), m.item.octets ++ rest) := by
  rw [Member.fromColon, List.append_assoc, List.cons_append, readColon_run m.between.property]

theorem Reader.Reads.item_iff (h : r.Reads denotes) (hm : IsValue m.item.value)
    (hrest : Number.Ends rest) {a : α} : r.run (m.item.octets ++ rest) = .ok (a, t) ↔
      denotes m.item.value a ∧ t = m.item.after.val ++ rest := by
  rw [Item.octets, List.append_assoc, h.passesBlanks m.item.before.property, List.append_assoc]
  exact h.run_eq_ok_iff hm (ends_blanks_append m.item.after.property hrest)

/-- A field is read from a member if it was not read before and the value denotes something. -/
theorem field_iff (h : r.Reads denotes) (hm : IsValue m.item.value) (hrest : Number.Ends rest)
    (name : String) (seen : Option α) {x : Option α} :
    (field name seen r).run (m.fromColon ++ rest) = .ok (x, t) ↔
      seen = none ∧ (∃ a, denotes m.item.value a ∧ x = some a) ∧ t = m.item.after.val ++ rest := by
  rcases seen with _ | b
  · have hfield : (field name none r).run (m.fromColon ++ rest)
        = (do readColon; return some (← r)).run (m.fromColon ++ rest) := rfl
    rw [hfield]
    constructor
    · intro hrun
      obtain ⟨_, u, hcolon, hrun⟩ := run_bind_eq_ok_iff.1 hrun
      rw [readColon_member] at hcolon
      cases hcolon
      obtain ⟨a, u, ha, hrun⟩ := run_bind_eq_ok_iff.1 hrun
      cases hrun
      obtain ⟨hdenotes, ht⟩ := (h.item_iff hm hrest).1 ha
      exact ⟨rfl, ⟨a, hdenotes, rfl⟩, ht⟩
    · rintro ⟨-, ⟨a, hdenotes, rfl⟩, rfl⟩
      exact run_bind_eq_ok_iff.2 ⟨(), _, readColon_member m rest,
        run_bind_eq_ok_iff.2 ⟨a, _, (h.item_iff hm hrest).2 ⟨hdenotes, rfl⟩, rfl⟩⟩
  · exact iff_of_false nofun nofun

/-- A member of any other name is passed over, whatever its value. -/
theorem unknownMember_run (hm : IsValue m.item.value) (hrest : Number.Ends rest) :
    unknownMember.run (m.fromColon ++ rest) = .ok ((), m.item.after.val ++ rest) := by
  rw [unknownMember, run_bind, readColon_member, Item.octets]
  simp only [List.append_assoc]
  exact skipValue_run hm m.item.before.property (ends_blanks_append m.item.after.property hrest)

end Fields

/-- What becomes of a field when the values of its name are read one after the other. -/
def Holds (denotes : Bytes → α → Prop) : Option α → List Bytes → Option α → Prop
  | seen, [], x => x = seen
  | seen, v :: later, x => seen = none ∧ ∃ a, denotes v a ∧ Holds denotes (some a) later x

theorem holds_none_iff {denotes : Bytes → α → Prop} {vs : List Bytes} {x : Option α} :
    Holds denotes none vs x ↔
      (vs = [] ∧ x = none) ∨ ∃ v a, vs = [v] ∧ denotes v a ∧ x = some a := by
  rcases vs with _ | ⟨v, _ | ⟨w, later⟩⟩ <;> simp [Holds]

theorem holds_append {denotes : Bytes → α → Prop} {x : Option α} (vs ws : List Bytes) :
    ∀ {seen : Option α}, Holds denotes seen (vs ++ ws) x ↔
      ∃ y, Holds denotes seen vs y ∧ Holds denotes y ws x := by
  induction vs with
  | nil => simp [Holds]
  | cons v vs ih =>
    intro seen
    simp only [List.cons_append, Holds, ih]
    constructor
    · rintro ⟨hseen, a, ha, y, hvs, hws⟩
      exact ⟨y, ⟨hseen, a, ha, hvs⟩, hws⟩
    · rintro ⟨y, ⟨hseen, a, ha, hvs⟩, hws⟩
      exact ⟨hseen, a, ha, y, hvs, hws⟩

theorem holds_singleton {denotes : Bytes → α → Prop} {seen x : Option α} {v : Bytes} :
    Holds denotes seen [v] x ↔ seen = none ∧ ∃ a, denotes v a ∧ x = some a := by
  simp only [Holds]

theorem valuesOf_cons (m : Member) (ms : List Member) (name : String) :
    Member.valuesOf (m :: ms) name =
      (if m.key.denoted = name then [m.item.value] else []) ++ Member.valuesOf ms name := by
  unfold Member.valuesOf
  split_ifs with h <;> simp [h]

/-- Reads a member of a record of two fields. -/
def pairMember (name : String) (r : Reader α) (name' : String) (r' : Reader β)
    (seen : Option α × Option β) (key : String) : Reader (Option α × Option β) := do
  if key = name then return (← field name seen.1 r, seen.2)
  else if key = name' then return (seen.1, ← field name' seen.2 r')
  else
    unknownMember
    return seen

/-- Two fields are held apart from each other. -/
theorem exists_holds_iff {denotes : Bytes → α → Prop} {denotes' : Bytes → β → Prop}
    {seen x : Option α × Option β} {vs ws vs' ws' : List Bytes} :
    (∃ y : Option α × Option β, Holds denotes seen.1 vs y.1 ∧ Holds denotes' seen.2 vs' y.2
        ∧ Holds denotes y.1 ws x.1 ∧ Holds denotes' y.2 ws' x.2 ∧ t = rest) ↔
      Holds denotes seen.1 (vs ++ ws) x.1 ∧ Holds denotes' seen.2 (vs' ++ ws') x.2 ∧ t = rest := by
  simp only [holds_append]
  constructor
  · rintro ⟨y, hvs, hvs', hws, hws', ht⟩
    exact ⟨⟨y.1, hvs, hws⟩, ⟨y.2, hvs', hws'⟩, ht⟩
  · rintro ⟨⟨y, hvs, hws⟩, ⟨y', hvs', hws'⟩, ht⟩
    exact ⟨(y, y'), hvs, hvs', hws, hws', ht⟩

/-- The members after the first, and what comes after the closing bracket. -/
def Member.following (ms : List Member) (rest : Bytes) : Bytes :=
  (ms.map Member.octets).flatMap (Octet.comma :: ·) ++ Octet.closeObject :: rest

theorem Member.ends_following (ms : List Member) (rest : Bytes) :
    Number.Ends (Member.following ms rest) :=
  ends_parts .object (ms.map Member.octets) rest

theorem Member.following_cons (m : Member) (ms : List Member) (rest : Bytes) :
    Member.following (m :: ms) rest
      = separator false ++ (m.octets ++ Member.following ms rest) := by
  simp [Member.following, separator]

section Pair

variable {r : Reader α} {r' : Reader β} {denotes : Bytes → α → Prop}
  {denotes' : Bytes → β → Prop} (h : r.Reads denotes) (h' : r'.Reads denotes')
  {name name' : String} (hne : name ≠ name')
include h h' hne

/-- What becomes of the fields when a member is read. -/
theorem pairMember_iff {m : Member} (hm : IsValue m.item.value) (hrest : Number.Ends rest)
    {seen x : Option α × Option β} :
    (pairMember name r name' r' seen m.key.denoted).run (m.fromColon ++ rest) = .ok (x, t) ↔
      Holds denotes seen.1 (if m.key.denoted = name then [m.item.value] else []) x.1
        ∧ Holds denotes' seen.2 (if m.key.denoted = name' then [m.item.value] else []) x.2
        ∧ t = m.item.after.val ++ rest := by
  obtain ⟨x₁, x₂⟩ := x
  unfold pairMember
  split_ifs with hkey hkey' hkey'
  · exact absurd (hkey.symm.trans hkey') hne
  · rw [holds_singleton]
    constructor
    · intro hrun
      obtain ⟨y, u, hfield, hrun⟩ := run_bind_eq_ok_iff.1 hrun
      cases hrun
      obtain ⟨hseen, hdenotes, ht⟩ := (field_iff h hm hrest name seen.1).1 hfield
      exact ⟨⟨hseen, hdenotes⟩, rfl, ht⟩
    · rintro ⟨⟨hseen, hdenotes⟩, rfl, rfl⟩
      exact run_bind_eq_ok_iff.2
        ⟨x₁, _, (field_iff h hm hrest name seen.1).2 ⟨hseen, hdenotes, rfl⟩, rfl⟩
  · rw [holds_singleton]
    constructor
    · intro hrun
      obtain ⟨y, u, hfield, hrun⟩ := run_bind_eq_ok_iff.1 hrun
      cases hrun
      obtain ⟨hseen, hdenotes, ht⟩ := (field_iff h' hm hrest name' seen.2).1 hfield
      exact ⟨rfl, ⟨hseen, hdenotes⟩, ht⟩
    · rintro ⟨rfl, ⟨hseen, hdenotes⟩, rfl⟩
      exact run_bind_eq_ok_iff.2
        ⟨x₂, _, (field_iff h' hm hrest name' seen.2).2 ⟨hseen, hdenotes, rfl⟩, rfl⟩
  · rw [run_bind, unknownMember_run hm hrest]
    simp only [run_pure, Holds, Except.ok.injEq, Prod.ext_iff]
    constructor
    · rintro ⟨⟨rfl, rfl⟩, rfl⟩
      exact ⟨rfl, rfl, rfl⟩
    · rintro ⟨rfl, rfl, rfl⟩
      exact ⟨⟨rfl, rfl⟩, rfl⟩

theorem membersFrom_pairMember_iff (first : Bool) {m : Member} (hm : IsValue m.item.value)
    (hrest : Number.Ends rest) {seen x : Option α × Option β} :
    membersFrom (pairMember name r name' r') first seen (separator first ++ (m.octets ++ rest))
        = .ok (x, t) ↔
      ∃ y : Option α × Option β,
        Holds denotes seen.1 (if m.key.denoted = name then [m.item.value] else []) y.1
          ∧ Holds denotes' seen.2 (if m.key.denoted = name' then [m.item.value] else []) y.2
          ∧ membersFrom (pairMember name r name' r') false y rest = .ok (x, t) := by
  rw [membersFrom_member]
  constructor
  · intro hrun
    rcases hread : (pairMember name r name' r' seen m.key.denoted).run (m.fromColon ++ rest)
      with e | ⟨y, u⟩
    · rw [hread] at hrun
      cases hrun
    · simp only [hread] at hrun
      obtain ⟨hfirst, hsecond, rfl⟩ := (pairMember_iff h h' hne hm hrest).1 hread
      rw [membersFrom_blanks m.item.after.property] at hrun
      exact ⟨y, hfirst, hsecond, hrun⟩
  · rintro ⟨y, hfirst, hsecond, hrun⟩
    simp only [(pairMember_iff h h' hne hm hrest).2 ⟨hfirst, hsecond, rfl⟩]
    rwa [membersFrom_blanks m.item.after.property]

/-- The members after the first are read one after the other. -/
theorem membersFrom_following_iff {ms : List Member} (hms : ∀ m ∈ ms, IsValue m.item.value)
    {x : Option α × Option β} : ∀ {seen : Option α × Option β},
    membersFrom (pairMember name r name' r') false seen (Member.following ms rest) = .ok (x, t) ↔
      Holds denotes seen.1 (Member.valuesOf ms name) x.1
        ∧ Holds denotes' seen.2 (Member.valuesOf ms name') x.2 ∧ t = rest := by
  induction ms with
  | nil =>
    intro seen
    rw [show Member.following [] rest = Octet.closeObject :: rest from rfl, membersFrom_close]
    simp only [Member.valuesOf, List.filter_nil, List.map_nil, Holds, Except.ok.injEq,
      Prod.ext_iff, and_assoc, eq_comm]
  | cons m ms ih =>
    intro seen
    rw [Member.following_cons, membersFrom_pairMember_iff h h' hne false (hms m List.mem_cons_self)
      (Member.ends_following ms rest), valuesOf_cons, valuesOf_cons, ← exists_holds_iff]
    simp only [ih fun m' hm' => hms m' (List.mem_cons_of_mem m hm')]

/-- What is read of the members of an object: each field from the values of its name. -/
theorem members_iff {ms : List Member} (hms : ∀ m ∈ ms, IsValue m.item.value) {b : Bytes}
    (hb : IsBlanks b) {seen x : Option α × Option β} :
    (members (pairMember name r name' r') seen).run
        (b ++ (joined (ms.map Member.octets) ++ Octet.closeObject :: rest)) = .ok (x, t) ↔
      Holds denotes seen.1 (Member.valuesOf ms name) x.1
        ∧ Holds denotes' seen.2 (Member.valuesOf ms name') x.2 ∧ t = rest := by
  show membersFrom (pairMember name r name' r') true seen _ = _ ↔ _
  rw [membersFrom_blanks hb]
  cases ms with
  | nil =>
    rw [List.map_nil, joined, List.nil_append, membersFrom_close]
    simp only [Member.valuesOf, List.filter_nil, List.map_nil, Holds, Except.ok.injEq,
      Prod.ext_iff, and_assoc, eq_comm]
  | cons m ms =>
    rw [List.map_cons, joined_cons, List.append_assoc, valuesOf_cons, valuesOf_cons,
      ← exists_holds_iff]
    refine (membersFrom_pairMember_iff h h' hne true (hms m List.mem_cons_self)
      (Member.ends_following ms rest)).trans ?_
    simp only [membersFrom_following_iff h h' hne
      fun m' hm' => hms m' (List.mem_cons_of_mem m hm')]

end Pair

end BearerAuth.Json
