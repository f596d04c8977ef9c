import BearerAuth.Bytes
import BearerAuth.Json.Error

/-!
# Readers

A reader takes some octets off the front of a text, or refuses it. What it leaves is never longer
than what it got (`Reader.le`), which is why the loops over members and nested values end. Readers
compose (`Reader.run_bind`), a reader that looks for an octet takes off at least one
(`Reader.consumes_symbol_bind`), and `Reader.whole` asks that nothing but blanks be left.
-/

namespace BearerAuth.Json

namespace Octet

@[match_pattern]
abbrev quote : UInt8 := 0x22

@[match_pattern]
abbrev plus : UInt8 := 0x2b

@[match_pattern]
abbrev comma : UInt8 := 0x2c

@[match_pattern]
abbrev minus : UInt8 := 0x2d

@[match_pattern]
abbrev point : UInt8 := 0x2e

@[match_pattern]
abbrev colon : UInt8 := 0x3a

@[match_pattern]
abbrev openList : UInt8 := 0x5b

@[match_pattern]
abbrev backslash : UInt8 := 0x5c

@[match_pattern]
abbrev closeList : UInt8 := 0x5d

@[match_pattern]
abbrev openObject : UInt8 := 0x7b

@[match_pattern]
abbrev closeObject : UInt8 := 0x7d

end Octet

/-- Octets that may stand between the parts of a text: blank, tab and the two line ends. -/
def isBlank (x : UInt8) : Bool :=
  x == 0x20 || x == 0x09 || x == 0x0a || x == 0x0d

/-- Takes a value off the front of some octets. -/
structure Reader (α : Type) where
  run : Bytes → Except ReadError (α × Bytes)
  le : ∀ {s a rest}, run s = .ok (a, rest) → rest.length ≤ s.length

namespace Reader

variable {α β : Type}

instance : Monad Reader where
  pure a := ⟨fun s => .ok (a, s), fun h => by cases h; exact Nat.le_refl _⟩
  bind r f :=
    ⟨fun s => match r.run s with
      | .error e => .error e
      | .ok (a, rest) => (f a).run rest,
    fun {s _ _} h => by
      cases hr : r.run s with
      | error e => simp [hr] at h
      | ok p =>
        simp only [hr] at h
        exact Nat.le_trans ((f p.1).le h) (r.le hr)⟩

@[simp]
theorem run_pure (a : α) (s : Bytes) : (pure a : Reader α).run s = .ok (a, s) := rfl

@[simp]
theorem run_bind (r : Reader α) (f : α → Reader β) (s : Bytes) :
    (r >>= f).run s =
      match r.run s with
      | .error e => .error e
      | .ok (a, rest) => (f a).run rest := rfl

@[simp]
theorem run_map (f : α → β) (r : Reader α) (s : Bytes) :
    (f <$> r).run s =
      match r.run s with
      | .error e => .error e
      | .ok (a, rest) => .ok (f a, rest) := rfl

def refuse (e : ReadError) : Reader α :=
  ⟨fun _ => .error e, fun h => by cases h⟩

/-- Takes over a verdict. -/
def ofExcept : Except ReadError α → Reader α
  | .error e => refuse e
  | .ok a => pure a

/-- The octet at the front, left where it is. -/
def peek : Reader (Option UInt8) :=
  ⟨fun s => .ok (s.head?, s), fun h => by cases h; exact Nat.le_refl _⟩

/-- The octet at the front, taken off. -/
def octet : Reader (Option UInt8) :=
  ⟨fun s => .ok (s.head?, s.tail), fun h => by cases h; simp⟩

/-- Takes off the octet at the front. -/
def drop : Reader Unit := do
  let _ ← octet

/-- Takes off the octets at the front that satisfy `p`. -/
def takeWhile (p : UInt8 → Bool) : Reader Bytes :=
  ⟨fun s => .ok (s.takeWhile p, s.dropWhile p),
    fun h => by cases h; exact (List.dropWhile_sublist p).length_le⟩

/-- The octet at the front after blanks, left where it is. -/
def next : Reader (Option UInt8) := do
  let _ ← takeWhile isBlank
  peek

theorem next_some {s rest : Bytes} {x : UInt8} (h : next.run s = .ok (some x, rest)) :
    ∃ t, rest = x :: t ∧ t.length < s.length := by
  cases hs : s.dropWhile isBlank with
  | nil => simp [next, takeWhile, peek, hs] at h
  | cons y t =>
    simp only [next, takeWhile, peek, run_bind, hs, List.head?_cons, Except.ok.injEq,
      Prod.mk.injEq, Option.some.injEq] at h
    obtain ⟨rfl, rfl⟩ := h
    have := (List.dropWhile_sublist isBlank (l := s)).length_le
    simp only [hs, List.length_cons] at this
    exact ⟨t, rfl, this⟩

/-- The octet at the front after blanks, taken off. -/
def symbol : Reader (Option UInt8) := do
  let _ ← takeWhile isBlank
  octet

theorem symbol_run {x : UInt8} (h : isBlank x = false) (s : Bytes) :
    symbol.run (x :: s) = .ok (some x, s) := by
  simp [symbol, takeWhile, octet, h]

/-- Whether a reader takes off at least one octet. -/
def Consumes (r : Reader α) : Prop :=
  ∀ s a rest, r.run s = .ok (a, rest) → rest.length < s.length

theorem consumes_bind_left {r : Reader α} (h : r.Consumes) (f : α → Reader β) :
    (r >>= f).Consumes := by
  intro s b rest hb
  cases hr : r.run s with
  | error e => simp [hr] at hb
  | ok p =>
    simp only [run_bind, hr] at hb
    exact Nat.lt_of_le_of_lt ((f p.1).le hb) (h _ _ _ hr)

theorem consumes_bind_right (r : Reader α) {f : α → Reader β} (h : ∀ a, (f a).Consumes) :
    (r >>= f).Consumes := by
  intro s b rest hb
  cases hr : r.run s with
  | error e => simp [hr] at hb
  | ok p =>
    simp only [run_bind, hr] at hb
    exact Nat.lt_of_lt_of_le (h p.1 _ _ _ hb) (r.le hr)

/-- A reader that refuses the end of the text takes off the octet that it looks at. -/
theorem consumes_symbol_bind {f : Option UInt8 → Reader β} {e : ReadError}
    (h : f none = refuse e) : (symbol >>= f).Consumes := by
  intro s b rest hb
  cases hs : s.dropWhile isBlank with
  | nil => simp [symbol, takeWhile, octet, hs, h, refuse] at hb
  | cons x t =>
    simp only [symbol, takeWhile, octet, run_bind, hs, List.tail_cons] at hb
    have := (f _).le hb
    have := (List.dropWhile_sublist isBlank (l := s)).length_le
    simp only [hs, List.length_cons] at this
    omega

/-- Takes off the rest of a word whose first letter has been taken off. -/
def word : Bytes → Reader Unit
  | [] => pure ()
  | x :: later => do
    match ← octet with
    | none => refuse .valueCutOff
    | some y => if y = x then word later else refuse .expectedWord

/-- Reads a text of which nothing but blanks may be left. -/
def whole (r : Reader α) (s : Bytes) : Except ReadError α :=
  Prod.fst <$> run (do
    let a ← r
    match ← next with
    | none => return a
    | some _ => refuse .trailingCharacters) s

end Reader

end BearerAuth.Json
