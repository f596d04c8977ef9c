import BearerAuth.Decimal.Shortest
import BearerAuth.Json.Reader

/-!
# Numbers

A number is a run of digits without a leading zero, perhaps with a sign, a fraction and an exponent
(`Number.read`). Without fraction and exponent it is an integer if 64 bits hold it, unsigned when
positive and signed when negative. Any other number is a float: its digits are gathered while 64
bits hold them, and what they make is scaled by a power of ten.
-/

namespace BearerAuth.Json

/-- Whether an octet is a decimal digit. -/
def isDigit (x : UInt8) : Bool :=
  0x30 ≤ x && x ≤ 0x39

/-- A number as it is written. -/
structure Number where
  negative : Bool
  whole : Bytes
  fraction : Option Bytes
  /-- Whether the exponent is negative, and its digits. -/
  exponent : Option (Bool × Bytes)
  deriving DecidableEq, Repr

namespace Number

open Reader

/-- At least one digit; `cutOff` is the verdict on a text that ends before it. -/
def readDigits (cutOff : ReadError) : Reader Bytes := do
  match ← takeWhile isDigit with
  | [] => if (← peek).isNone then refuse cutOff else refuse .invalidNumber
  | digits => return digits

/-- The digits after a point, if there is one. -/
def readFraction (cutOff : ReadError) : Reader (Option Bytes) := do
  match ← peek with
  | some Octet.point =>
    drop
    return some (← readDigits cutOff)
  | _ => return none

/-- Whether a minus comes next; either sign is taken off. -/
def readSign : Reader Bool := do
  match ← peek with
  | some Octet.minus =>
    drop
    return true
  | some Octet.plus =>
    drop
    return false
  | _ => return false

/-- The digits after an exponent mark, if there is one, and whether they count downwards. -/
def readExponent (cutOff : ReadError) : Reader (Option (Bool × Bytes)) := do
  match ← peek with
  | some 0x65 | some 0x45 =>
    drop
    let negative ← readSign
    return some (negative, ← readDigits cutOff)
  | _ => return none

/-- Reads a number whose first octet has been taken off; `cutOff` is the verdict on a text that ends
where a digit is wanted. -/
def read (first : UInt8) (cutOff : ReadError) : Reader Number := do
  let negative := first == Octet.minus
  let whole ← if negative then readDigits cutOff else (first :: ·) <$> takeWhile isDigit
  if whole.head? = some 0x30 ∧ whole ≠ [0x30] then refuse .invalidNumber
  let fraction ← readFraction cutOff
  let exponent ← readExponent cutOff
  return ⟨negative, whole, fraction, exponent⟩

/-- What a number stands for. -/
inductive Value
  | integer (n : Int)
  | floating (x : Float)

def digitValue (x : UInt8) : Nat :=
  x.toNat - 0x30

/-- Gathers digits into `n` while 64 bits hold the result; also how many were gathered. -/
def gather (n : Nat) : Bytes → Nat × Nat
  | [] => (n, 0)
  | x :: later =>
    let next := n * 10 + digitValue x
    if next < 0x10000000000000000 then
      let (gathered, count) := gather next later
      (gathered, count + 1)
    else (n, 0)

def ofDigits (digits : Bytes) : Nat :=
  digits.foldl (fun n x => n * 10 + digitValue x) 0

/-- The power of ten, as a float. -/
def tenTo (n : Nat) : Float :=
  Float.ofScientific 1 false n

/-- The largest power of ten that a float holds. -/
def largestPower : Nat := 308

/-- `x / 10 ^ n`, by powers that a float holds. -/
def divide (x : Float) (n : Nat) : Float :=
  if n ≤ largestPower then x / tenTo n
  else if x == 0 then x
  else divide (x / tenTo largestPower) (n - largestPower)
termination_by n
decreasing_by
  simp only [largestPower] at *
  omega

/-- `x * 10 ^ exponent`, if a float holds it. -/
def scale (x : Float) (exponent : Int) : Except ReadError Float :=
  match exponent with
  | .negSucc n => .ok (divide x (n + 1))
  | .ofNat n =>
    if n ≤ largestPower then
      let y := x * tenTo n
      if y.isInf then .error .numberOutOfRange else .ok y
    else if x == 0 then .ok x
    else .error .numberOutOfRange

/-- The exponent that is written, zero if none is. -/
def writtenExponent (n : Number) : Int :=
  match n.exponent with
  | none => 0
  | some (negative, digits) => if negative then -(ofDigits digits : Int) else ofDigits digits

def value (n : Number) : Except ReadError Value := do
  let (gathered, count) := gather 0 n.whole
  let left := n.whole.length - count
  if n.fraction.isNone ∧ n.exponent.isNone ∧ left = 0 then
    if !n.negative then return .integer gathered
    else if gathered = 0 ∨ 0x8000000000000000 < gathered then
      return .floating (-(UInt64.ofNat gathered).toFloat)
    else return .integer (-(gathered : Int))
  else
    let (gathered, count) := gather gathered (n.fraction.getD [])
    let x ← scale (UInt64.ofNat gathered).toFloat (left - count + n.writtenExponent)
    return .floating (if n.negative then -x else x)

def Value.found : Value → Found
  | .integer n => .integer n
  | .floating x => .floating (Decimal.write x)

end Number

end BearerAuth.Json
