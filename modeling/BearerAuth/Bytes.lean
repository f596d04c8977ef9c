/-!
# Octet strings

A text is carried as its UTF-8 octets (`ofText`), and octets are read back as a text only when
they are well-formed UTF-8 (`toText?`). The two are inverse: `toText?_ofText` says that every text
survives the trip, `toText?_eq_some_iff` that nothing but the octets of a text is read.

A number is written in a fixed count of octets, most significant first (`ofNat`), and
`toNat_ofNat` says that it is read back modulo the capacity of that width.
-/

namespace BearerAuth

abbrev Bytes := List UInt8

namespace Bytes

/-- The UTF-8 octets of a text. -/
def ofText (s : String) : Bytes :=
  s.toByteArray.data.toList

/-- The text that the octets spell in UTF-8, when they spell one. -/
def toText? (b : Bytes) : Option String :=
  String.fromUTF8? ⟨b.toArray⟩

theorem toText?_eq_some_iff {b : Bytes} {s : String} : toText? b = some s ↔ b = ofText s := by
  unfold toText? ofText String.fromUTF8?
  constructor
  · intro h
    split at h
    · simp only [Option.some.injEq] at h
      subst h
      simp [String.fromUTF8]
    · simp at h
  · intro h
    subst h
    have hs : (⟨s.toByteArray.data.toList.toArray⟩ : ByteArray) = s.toByteArray := by simp
    rw [hs, dif_pos s.isValidUTF8]
    rfl

theorem toText?_ofText (s : String) : toText? (ofText s) = some s :=
  toText?_eq_some_iff.2 rfl

/-- The octets of `n` in `width` places, most significant first; what does not fit is dropped. -/
def ofNat : (width : Nat) → (n : Nat) → Bytes
  | 0, _ => []
  | width + 1, n => ofNat width (n / 256) ++ [UInt8.ofNat (n % 256)]

/-- The number that the octets write, most significant first. -/
def toNat (b : Bytes) : Nat :=
  b.foldl (fun n x => n * 256 + x.toNat) 0

@[simp]
theorem length_ofNat : ∀ width n, (ofNat width n).length = width
  | 0, _ => rfl
  | width + 1, n => by simp [ofNat, length_ofNat width]

theorem toNat_append_singleton (b : Bytes) (x : UInt8) :
    toNat (b ++ [x]) = toNat b * 256 + x.toNat := by
  simp [toNat]

/-- How many numbers can be written in `width` octets. -/
def capacity : (width : Nat) → Nat
  | 0 => 1
  | width + 1 => 256 * capacity width

theorem toNat_ofNat : ∀ width n, toNat (ofNat width n) = n % capacity width
  | 0, n => by simp [ofNat, toNat, capacity, Nat.mod_one]
  | width + 1, n => by
    rw [ofNat, toNat_append_singleton, toNat_ofNat width, capacity, Nat.mod_mul]
    simp only [UInt8.toNat_ofNat']
    omega

/-- A hexadecimal digit, in lower case. -/
def hexDigit (n : Nat) : Char :=
  if n < 10 then Char.ofNat (48 + n) else Char.ofNat (87 + n)

/-- Two hexadecimal digits for each octet. -/
def hex (b : Bytes) : String :=
  String.ofList (b.flatMap fun x => [hexDigit (x.toNat / 16), hexDigit (x.toNat % 16)])

/-- The value of a hexadecimal digit of either case. -/
def hexValue? (c : Char) : Option Nat :=
  if '0' ≤ c ∧ c ≤ '9' then some (c.toNat - 48)
  else if 'a' ≤ c ∧ c ≤ 'f' then some (c.toNat - 87)
  else if 'A' ≤ c ∧ c ≤ 'F' then some (c.toNat - 55)
  else none

/-- The octets that a text of hexadecimal digit pairs writes. -/
def ofHexDigits : List Char → Option Bytes
  | [] => some []
  | [_] => none
  | h :: l :: rest => do
    let h ← hexValue? h
    let l ← hexValue? l
    return UInt8.ofNat (h * 16 + l) :: (← ofHexDigits rest)

/-- The octets that a text of hexadecimal digit pairs writes. -/
def ofHex? (s : String) : Option Bytes :=
  ofHexDigits s.toList

end Bytes

end BearerAuth
