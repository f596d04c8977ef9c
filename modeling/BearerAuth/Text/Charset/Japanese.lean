import BearerAuth.Text.Charset.Index.Jis0208
import BearerAuth.Text.Charset.Index.Jis0212

/-!
# Japanese charsets

Three ways of writing the rows of the Japanese standards: with leads around the octets of the
half-width katakana, with both octets raised above ASCII, and in ASCII alone, where sequences that
begin with an escape designate what the octets after them mean.
-/

namespace BearerAuth.Text.Charset

/-- The half-width katakana at a distance from the first one. -/
def katakana (n : Nat) : Char :=
  Char.ofNat (0xff61 + n)

namespace ShiftJis

/-- The character that an octet is alone. -/
def single (x : UInt8) : Option Char :=
  if x = 0x80 then some '\x80'
  else if isBetween 0xa1 0xdf x then some (katakana (above 0xa1 x))
  else ascii? x

/-- Whether an octet goes before another one. -/
def isLead (x : UInt8) : Bool :=
  isBetween 0x81 0x9f x || isBetween 0xe0 0xfc x

/-- The character of two octets. -/
def pair (x y : UInt8) : Option (List Char) :=
  if isBetween 0x40 0x7e y || isBetween 0x80 0xfc y then
    let n := above (if x < 0xa0 then 0x81 else 0xc1) x * 188
      + above (if y < 0x7f then 0x40 else 0x41) y
    if 8836 ≤ n ∧ n ≤ 10715 then some [Char.ofNat (0xe000 + (n - 8836))]
    else (Index.jis0208.char? n).map ([·])
  else none

end ShiftJis

/-- The text of octets with leads around the half-width katakana. -/
def decodeShiftJis : Bytes → List Char :=
  decodePairs ShiftJis.single ShiftJis.isLead ShiftJis.pair

namespace EucJp

/-- Whether an octet is one of a raised pair. -/
def isRaised (x : UInt8) : Bool :=
  isBetween 0xa1 0xfe x

/-- Whether an octet goes before another one. -/
def isLead (x : UInt8) : Bool :=
  x = 0x8e || x = 0x8f || isRaised x

/-- The number of a raised pair. -/
def number (x y : UInt8) : Nat :=
  above 0xa1 x * 94 + above 0xa1 y

/-- The character of two octets. -/
def pair? (x y : UInt8) : Option Char :=
  if x = 0x8e then if isBetween 0xa1 0xdf y then some (katakana (above 0xa1 y)) else none
  else if isRaised x && isRaised y then Index.jis0208.char? (number x y)
  else none

end EucJp

/-- The text of octets in raised pairs, those of the supplementary rows with an octet before
them. -/
def decodeEucJp : Bytes → List Char
  | [] => []
  | [x] => [(ascii? x).getD replacement]
  | x :: y :: rest =>
    match ascii? x with
    | some c => c :: decodeEucJp (y :: rest)
    | none =>
      if !EucJp.isLead x then replacement :: decodeEucJp (y :: rest)
      else if x = 0x8f && EucJp.isRaised y then
        match rest with
        | [] => [replacement]
        | z :: more =>
          if z < 0x80 then replacement :: decodeEucJp (z :: more)
          else if EucJp.isRaised z then
            (Index.jis0212.char? (EucJp.number y z)).getD replacement :: decodeEucJp more
          else replacement :: decodeEucJp more
      else match EucJp.pair? x y with
        | some c => c :: decodeEucJp rest
        | none =>
          replacement :: if y < 0x80 then decodeEucJp (y :: rest) else decodeEucJp rest

namespace Iso2022Jp

/-- What octets mean. -/
inductive Mode
  | ascii
  | roman
  | katakana
  | pairs
  deriving DecidableEq, Repr

/-- What the two octets after an escape designate. -/
def Mode.designated? (x y : UInt8) : Option Mode :=
  if x = 0x28 then
    if y = 0x42 then some ascii
    else if y = 0x4a then some roman
    else if y = 0x49 then some katakana
    else none
  else if x = 0x24 ∧ (y = 0x40 ∨ y = 0x42) then some pairs
  else none

/-- The escape. -/
def escape : UInt8 := 0x1b

/-- Whether an octet is one of a pair. -/
def isOfPair (x : UInt8) : Bool :=
  isBetween 0x21 0x7e x

/-- The character that an octet is alone. -/
def single (mode : Mode) (x : UInt8) : Option Char :=
  match mode with
  | .ascii => if x = 0x0e ∨ x = 0x0f then none else ascii? x
  | .roman =>
    if x = 0x5c then some '¥'
    else if x = 0x7e then some '‾'
    else if x = 0x0e ∨ x = 0x0f then none
    else ascii? x
  | .katakana => if isBetween 0x21 0x5f x then some (Charset.katakana (above 0x21 x)) else none
  | .pairs => none

/-- The text of octets in a mode. A designation that follows another one at once leaves a
replacement. -/
def decode (mode : Mode) (designated : Bool) : Bytes → List Char
  | [] => []
  | [x] => [if x = escape then replacement else (single mode x).getD replacement]
  | x :: y :: rest =>
    if x = escape then
      match rest with
      | [] => replacement :: decode mode false [y]
      | z :: more =>
        match Mode.designated? y z with
        | some next =>
          if designated then replacement :: decode next true more else decode next true more
        | none => replacement :: decode mode false (y :: z :: more)
    else if mode = .pairs && isOfPair x then
      if y = escape then replacement :: decode mode false (y :: rest)
      else if isOfPair y then
        (Index.jis0208.char? (above 0x21 x * 94 + above 0x21 y)).getD replacement
          :: decode mode false rest
      else replacement :: decode mode false rest
    else (single mode x).getD replacement :: decode mode false (y :: rest)

end Iso2022Jp

/-- The text of octets of ASCII with designations. -/
def decodeIso2022Jp : Bytes → List Char :=
  Iso2022Jp.decode .ascii false

end BearerAuth.Text.Charset
