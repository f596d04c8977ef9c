import BearerAuth.Text.Charset.Index.Hangul

/-!
# The Korean charset

Pairs of octets, the first of them above ASCII.
-/

namespace BearerAuth.Text.Charset

/-- The character of two octets. -/
def hangulPair (x y : UInt8) : Option (List Char) :=
  if isBetween 0x41 0xfe y then (Index.hangul.char? (above 0x81 x * 190 + above 0x41 y)).map ([·])
  else none

/-- The text of octets in Korean pairs. -/
def decodeEucKr : Bytes → List Char :=
  decodePairs ascii? (isBetween 0x81 0xfe) hangulPair

end BearerAuth.Text.Charset
