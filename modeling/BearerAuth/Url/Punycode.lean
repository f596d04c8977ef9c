/-!
# Labels in ASCII

A label with characters above ASCII is written in ASCII: first its ASCII characters and a hyphen, if
it has any, then where each of the other characters is put in, in the order of their code points. A
place is told by how far it is from the last one, in digits of which the later ones count for more;
a digit below a threshold is the last one, and the thresholds follow the sizes of the distances.
-/

namespace BearerAuth.Url.Punycode

/-- The value of a digit: letters come before decimal digits. -/
def digit? (c : Char) : Option Nat :=
  if c.isLower then some (c.toNat - 'a'.toNat)
  else if c.isDigit then some (c.toNat - '0'.toNat + 26)
  else none

/-- The threshold of the digit at a position, which counts in steps of 36. -/
def threshold (position bias : Nat) : Nat :=
  if position ≤ bias then 1 else if bias + 26 ≤ position then 26 else position - bias

/-- Brings a distance below the size at which the bias is computed. -/
def settle (distance bias : Nat) : Nat :=
  if 455 < distance then settle (distance / 35) (bias + 36)
  else bias + 36 * distance / (distance + 38)
termination_by distance
decreasing_by exact Nat.div_lt_self (by omega) (by omega)

/-- The bias after a distance to a place in a label of the given length. -/
def adapted (distance length : Nat) (isFirst : Bool) : Nat :=
  let scaled := if isFirst then distance / 700 else distance / 2
  settle (scaled + scaled / length) 0

/-- Reads a distance, which is below two to the 32nd power. -/
def readDistance? (bias position weight : Nat) : List Char → Option (Nat × List Char)
  | [] => none
  | c :: rest =>
    (digit? c).bind fun digit =>
      let limit := threshold position bias
      if digit < limit then some (digit * weight, rest)
      else if 0x100000000 ≤ weight * (36 - limit) then none
      else
        (readDistance? bias (position + 36) (weight * (36 - limit)) rest).map fun (more, rest) =>
          (digit * weight + more, rest)

theorem length_of_readDistance {bias position weight distance : Nat} {text rest : List Char}
    (h : readDistance? bias position weight text = some (distance, rest)) :
    rest.length < text.length := by
  induction text generalizing position weight distance with
  | nil => simp [readDistance?] at h
  | cons c text ih =>
    simp only [readDistance?] at h
    obtain ⟨digit, -, h⟩ := Option.bind_eq_some_iff.1 h
    split at h
    · simp only [Option.some.injEq, Prod.mk.injEq] at h
      simp [← h.2]
    · split at h
      · simp at h
      · obtain ⟨⟨more, r⟩, found, h⟩ := Option.map_eq_some_iff.1 h
        simp only [Prod.mk.injEq] at h
        rw [h.2] at found
        have := ih found
        simp only [List.length_cons]
        omega

/-- Puts characters into a label, given the last code point and the place after it. -/
def insertAll (code bias place : Nat) (label text : List Char) : Option (List Char) :=
  match text with
  | [] => some label
  | c :: rest =>
    match _found : readDistance? bias 36 1 (c :: rest) with
    | none => none
    | some (distance, text) =>
      let reached := place + distance
      let length := label.length + 1
      let code := code + reached / length
      if reached < 0x100000000 ∧ code.isValidChar then
        insertAll code (adapted distance length (place = 0)) (reached % length + 1)
          (label.insertIdx (reached % length) (Char.ofNat code)) text
      else none
termination_by text.length
decreasing_by exact length_of_readDistance _found

/-- The label that a text writes, if it is not too long. -/
def decode? (text : List Char) : Option (List Char) :=
  let last := text.reverse.takeWhile (· ≠ '-')
  let first := text.take (text.length - last.length - 1)
  if 2000 < text.length then none
  else insertAll 128 72 0 first (if first = [] then text else last.reverse)

end BearerAuth.Url.Punycode
