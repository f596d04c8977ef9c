import BearerAuth.Bytes

/-!
# Base64

Three octets are written as four symbols of six bits. A group left short by the end of the octets
is written with two or three symbols, whose spare bits are zero. The reader refuses spare bits that
are not zero, so a text is read exactly when it is the written form of some octets; a loose reader
(`decodeLoosely`) does not look at them.

`Alphabet.url` uses `-` and `_` where `Alphabet.standard` uses `+` and `/`. The padded form fills
the last group up to four characters with `=`.
-/

namespace BearerAuth.Base64

/-- Which two symbols stand for 62 and 63. -/
inductive Alphabet
  | standard
  | url
  deriving DecidableEq, Repr

namespace Alphabet

/-- The symbol of a six-bit value. -/
def symbol (a : Alphabet) (n : Nat) : Char :=
  if n < 26 then Char.ofNat (65 + n)
  else if n < 52 then Char.ofNat (71 + n)
  else if n < 62 then Char.ofNat (n - 4)
  else match a, n with
    | standard, 62 => '+'
    | standard, _ => '/'
    | url, 62 => '-'
    | url, _ => '_'

def value? (a : Alphabet) (c : Char) : Option Nat :=
  if 'A' ≤ c ∧ c ≤ 'Z' then some (c.toNat - 65)
  else if 'a' ≤ c ∧ c ≤ 'z' then some (c.toNat - 71)
  else if '0' ≤ c ∧ c ≤ '9' then some (c.toNat + 4)
  else match a, c with
    | standard, '+' => some 62
    | standard, '/' => some 63
    | url, '-' => some 62
    | url, '_' => some 63
    | _, _ => none

end Alphabet

variable (a : Alphabet)

/-- The octets in groups of three, each group as four symbols, without padding. -/
def encode : Bytes → List Char
  | [] => []
  | [x] => [a.symbol (x.toNat / 4), a.symbol (x.toNat % 4 * 16)]
  | [x, y] =>
    [a.symbol (x.toNat / 4), a.symbol (x.toNat % 4 * 16 + y.toNat / 16),
      a.symbol (y.toNat % 16 * 4)]
  | x :: y :: z :: rest =>
    a.symbol (x.toNat / 4) :: a.symbol (x.toNat % 4 * 16 + y.toNat / 16)
      :: a.symbol (y.toNat % 16 * 4 + z.toNat / 64) :: a.symbol (z.toNat % 64) :: encode rest

/-- Reads symbols without padding. A last group of one symbol is refused, and so is one whose spare
bits are not as they should be. -/
def decodeWhere (spare : Nat → Bool) : List Char → Option Bytes
  | [] => some []
  | [_] => none
  | [p, q] => do
    let p ← a.value? p
    let q ← a.value? q
    guard (spare (q % 16))
    return [UInt8.ofNat (p * 4 + q / 16)]
  | [p, q, r] => do
    let p ← a.value? p
    let q ← a.value? q
    let r ← a.value? r
    guard (spare (r % 4))
    return [UInt8.ofNat (p * 4 + q / 16), UInt8.ofNat (q % 16 * 16 + r / 4)]
  | p :: q :: r :: s :: rest => do
    let p ← a.value? p
    let q ← a.value? q
    let r ← a.value? r
    let s ← a.value? s
    return UInt8.ofNat (p * 4 + q / 16) :: UInt8.ofNat (q % 16 * 16 + r / 4)
      :: UInt8.ofNat (r % 4 * 64 + s) :: (← decodeWhere spare rest)

/-- Reads symbols without padding, whose spare bits are zero. -/
def decode (symbols : List Char) : Option Bytes :=
  decodeWhere a (· = 0) symbols

/-- Reads symbols without padding, whatever their spare bits. -/
def decodeLoosely (symbols : List Char) : Option Bytes :=
  decodeWhere a (fun _ => true) symbols

def encodePadded (b : Bytes) : List Char :=
  let symbols := encode a b
  symbols ++ List.replicate ((4 - symbols.length % 4) % 4) '='

/-- Reads the padded form: whole groups of four, of which the last may end in one or two `=`. -/
def decodePadded (text : List Char) : Option Bytes :=
  if text.length % 4 = 0 then
    let body := text.reverse.dropWhile (· = '=') |>.reverse
    if text.length - body.length ≤ 2 then decode a body else none
  else none

end BearerAuth.Base64
