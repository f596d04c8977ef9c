import BearerAuth.Json.Kind

/-!
# Passing over a value

A value that nobody asked for is passed over, whatever it is and however deep its lists and objects
nest. The brackets that are open at a point of the text are kept in a list, the innermost first, so
the depth is not limited.
-/

namespace BearerAuth.Json

open Reader

/-- What an open bracket has opened. -/
inductive Bracket
  | list
  | object
  deriving DecidableEq, Repr

namespace Bracket

/-- The octet that closes a bracket. -/
def close : Bracket → UInt8
  | list => Octet.closeList
  | object => Octet.closeObject

/-- The verdict on a text that ends inside a bracket. -/
def cutOff : Bracket → ReadError
  | list => .listCutOff
  | object => .objectCutOff

/-- The verdict on anything but a comma or the end of the bracket after a part of it. -/
def expectedSeparator : Bracket → ReadError
  | list => .expectedListSeparator
  | object => .expectedObjectSeparator

end Bracket

/-- Passes over the colon between a key and its value. -/
def readColon : Reader Unit := do
  match ← symbol with
  | none => refuse .objectCutOff
  | some Octet.colon => return ()
  | some _ => refuse .expectedColon

/-- Passes over the key of a member and its colon. -/
def skipKey : Reader Unit := do
  match ← symbol with
  | none => refuse .objectCutOff
  | some Octet.quote =>
    Literal.skip
    readColon
  | some _ => refuse .keyNotString

/-- Passes over a value that is no list or object, or over the bracket that opens one. -/
def skipStart : Reader (Option Bracket) := do
  match ← symbol with
  | none => refuse .valueCutOff
  | some x =>
    match Kind.ofFirst? x with
    | none => refuse .expectedValue
    | some .null => readNull *> pure none
    | some .yes => readTrue *> pure none
    | some .no => readFalse *> pure none
    | some .number => Number.read x .invalidNumber *> pure none
    | some .string => Literal.skip *> pure none
    | some .list => return some .list
    | some .object => return some .object

theorem consumes_skipStart : skipStart.Consumes :=
  consumes_symbol_bind rfl

/-- Passes over what stands before a value inside a bracket: a comma, except before the first, and
the key of a member. -/
def skipSeparator (b : Bracket) (first : Bool) : Reader Unit := do
  if !first then
    match ← symbol with
    | some Octet.comma => pure ()
    | _ => refuse b.expectedSeparator
  if b = .object then skipKey

/-- Where a text stands while values are passed over. -/
inductive Position
  /-- Before a value. -/
  | value
  /-- After a value, or after a bracket that opens if nothing is `before` it inside. -/
  | inside (before : Bool)
  deriving DecidableEq, Repr

/-- From inside a bracket to a value inside it may take no octet. -/
def Position.order : Position → Nat
  | value => 0
  | inside _ => 1

/-- Passes over the rest of the brackets that are open. -/
def skipFrom (p : Position) (stack : List Bracket) (s : Bytes) : Except ReadError Bytes :=
  match p, stack with
  | .value, stack =>
    match _h : skipStart.run s with
    | .error e => .error e
    | .ok (none, rest) => skipFrom (.inside true) stack rest
    | .ok (some b, rest) => skipFrom (.inside false) (b :: stack) rest
  | .inside _, [] => .ok s
  | .inside before, b :: stack =>
    match _h : next.run s with
    | .error e => .error e
    | .ok (none, _) => .error b.cutOff
    | .ok (some x, rest) =>
      if x = b.close then skipFrom (.inside true) stack rest.tail
      else
        match _h' : (skipSeparator b !before).run rest with
        | .error e => .error e
        | .ok (_, rest) => skipFrom .value (b :: stack) rest
termination_by (s.length, p.order)
decreasing_by
  · exact .left _ _ (consumes_skipStart _ _ _ _h)
  · exact .left _ _ (consumes_skipStart _ _ _ _h)
  · obtain ⟨t, rfl, ht⟩ := next_some _h
    exact .left _ _ ht
  · have h := Nat.le_trans ((skipSeparator b !before).le _h') (next.le _h)
    rcases Nat.lt_or_eq_of_le h with h | h
    · exact .left _ _ h
    · rw [h]
      exact .right _ Nat.zero_lt_one

theorem length_skipFrom {p : Position} {stack : List Bracket} {s rest : Bytes}
    (h : skipFrom p stack s = .ok rest) : rest.length ≤ s.length := by
  fun_induction skipFrom p stack s with
  | case1 => cases h
  | case2 _ _ _ hr ih => exact Nat.le_trans (ih h) (skipStart.le hr)
  | case3 _ _ _ _ hr ih => exact Nat.le_trans (ih h) (skipStart.le hr)
  | case4 => cases h; exact Nat.le_refl _
  | case5 => cases h
  | case6 => cases h
  | case7 _ _ _ _ _ hr ih =>
    obtain ⟨t, rfl, ht⟩ := next_some hr
    exact Nat.le_trans (ih h) (Nat.le_of_lt ht)
  | case8 => cases h
  | case9 _ _ _ _ _ _ hr _ _ _ hs ih =>
    exact Nat.le_trans (ih h) (Nat.le_trans ((skipSeparator _ _).le hs) (next.le hr))

/-- Passes over a value. -/
def skipValue : Reader Unit :=
  ⟨fun s => ((), ·) <$> skipFrom .value [] s, fun {s _ _} h => by
    cases hr : skipFrom .value [] s with
    | error e => rw [hr] at h; cases h
    | ok r => rw [hr] at h; cases h; exact length_skipFrom hr⟩

end BearerAuth.Json
