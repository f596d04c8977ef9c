import BearerAuth.Text.Charset.Index

/-!
# Texts in the forms of Unicode

Octets that are no character are replaced: in the form of octets, the longest beginning of a
character at a time, and in the form of words, a half of a pair that lacks the other.
-/

namespace BearerAuth.Text.Charset

/-- What must follow the first octet of a character: how many octets, the value of the first octet,
and between which the next one lies. -/
def utf8Lead? (x : UInt8) : Option (Nat × Nat × UInt8 × UInt8) :=
  let n := x.toNat
  if isBetween 0xc2 0xdf x then some (1, n % 0x20, 0x80, 0xbf)
  else if x = 0xe0 then some (2, n % 0x10, 0xa0, 0xbf)
  else if x = 0xed then some (2, n % 0x10, 0x80, 0x9f)
  else if isBetween 0xe1 0xef x then some (2, n % 0x10, 0x80, 0xbf)
  else if x = 0xf0 then some (3, n % 8, 0x90, 0xbf)
  else if x = 0xf4 then some (3, n % 8, 0x80, 0x8f)
  else if isBetween 0xf1 0xf3 x then some (3, n % 8, 0x80, 0xbf)
  else none

/-- Reads the octets after the first one of a character, and what stands for the character. -/
def utf8Tail (first last : UInt8) : (more value : Nat) → Bytes → Char × Bytes
  | 0, value, rest => (Char.ofNat value, rest)
  | _ + 1, _, [] => (replacement, [])
  | more + 1, value, x :: rest =>
    if isBetween first last x then
      utf8Tail 0x80 0xbf more (value * 0x40 + x.toNat % 0x40) rest
    else (replacement, x :: rest)

theorem length_utf8Tail (first last : UInt8) (more value : Nat) (b : Bytes) :
    (utf8Tail first last more value b).2.length ≤ b.length := by
  fun_induction utf8Tail first last more value b with
  | case1 => simp
  | case2 => simp
  | case3 _ _ _ _ x rest _ ih => simp only [List.length_cons]; omega
  | case4 => simp

def decodeUtf8 (b : Bytes) : List Char :=
  match b with
  | [] => []
  | x :: rest =>
    if x < 0x80 then Char.ofNat x.toNat :: decodeUtf8 rest
    else match utf8Lead? x with
      | none => replacement :: decodeUtf8 rest
      | some (more, value, first, last) =>
        let found := utf8Tail first last more value rest
        found.1 :: decodeUtf8 found.2
termination_by b.length
decreasing_by
  all_goals simp only [List.length_cons]
  · omega
  · omega
  · have := length_utf8Tail first last more value rest
    omega

/-- The text of words of two octets, the first half of a pair before them pending. -/
def decodeUtf16 (bigEndian : Bool) (pending : Option Nat) : Bytes → List Char
  | [] => if pending.isSome then [replacement] else []
  | [_] => [replacement]
  | x :: y :: rest =>
    let word := if bigEndian then x.toNat * 0x100 + y.toNat else y.toNat * 0x100 + x.toNat
    if 0xdc00 ≤ word ∧ word < 0xe000 then
      match pending with
      | some high =>
        Char.ofNat (0x10000 + (high - 0xd800) * 0x400 + (word - 0xdc00))
          :: decodeUtf16 bigEndian none rest
      | none => replacement :: decodeUtf16 bigEndian none rest
    else
      let alone := if pending.isSome then [replacement] else []
      if 0xd800 ≤ word ∧ word < 0xdc00 then alone ++ decodeUtf16 bigEndian (some word) rest
      else alone ++ Char.ofNat word :: decodeUtf16 bigEndian none rest

end BearerAuth.Text.Charset
