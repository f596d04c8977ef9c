/-!
# Shortest decimals

A finite float stands for the interval of numbers that round to it. Of the decimals in that
interval those with the fewest digits are considered, and of these the one nearest to the float is
its shortest decimal. The search is exact arithmetic on natural numbers.
-/

namespace BearerAuth.Decimal

/-- A float other than zero as `mantissa · 2 ^ exponent`, its exponent shifted up by 1074 so that
none is negative. -/
structure Binary where
  mantissa : Nat
  exponent : Nat
  /-- Whether the neighbour below is only half as far away as the one above. -/
  narrow : Bool

/-- The parts of a float's bits, its sign left out. -/
def Binary.ofBits (bits : Nat) : Binary :=
  let fraction := bits % Nat.pow 2 52
  let e := bits / Nat.pow 2 52 % Nat.pow 2 11
  if e = 0 then ⟨fraction, 0, false⟩
  else ⟨Nat.pow 2 52 + fraction, e - 1, fraction = 0 && e != 1⟩

/-- Digits and a place: the decimal `digits · 10 ^ (place - 1100)`. -/
structure Scaled where
  digits : Nat
  place : Nat

/-- A float, scaled by `2 ^ 1076 · 10 ^ 1100`, as are all numbers that are compared. -/
def Binary.scaled (b : Binary) : Nat :=
  4 * b.mantissa * Nat.pow 2 b.exponent * Nat.pow 10 1100

/-- One `place`, scaled. -/
def step (place : Nat) : Nat :=
  Nat.pow 2 1076 * Nat.pow 10 place

/-- Whether a scaled number rounds to the float. -/
def Binary.admits (b : Binary) (n : Nat) : Bool :=
  let half := 2 * Nat.pow 2 b.exponent * Nat.pow 10 1100
  let below := if b.narrow then half / 2 else half
  if b.mantissa % 2 = 0 then b.scaled - below ≤ n && n ≤ b.scaled + half
  else b.scaled - below < n && n < b.scaled + half

/-- The multiple of one place that rounds to the float and is nearest to it, if there is one. -/
def Binary.at? (b : Binary) (place : Nat) : Option Scaled :=
  let n := b.scaled / step place
  let low := n * step place
  let high := (n + 1) * step place
  match b.admits low, b.admits high with
  | true, true =>
    if 2 * b.scaled < low + high || (2 * b.scaled = low + high && n % 2 = 0) then some ⟨n, place⟩
    else some ⟨n + 1, place⟩
  | true, false => some ⟨n, place⟩
  | false, true => some ⟨n + 1, place⟩
  | false, false => none

/-- The decimal at the highest place that has one, places tried from the highest down. -/
def Binary.search (b : Binary) : (place : Nat) → Scaled
  | 0 => (b.at? 0).getD ⟨0, 0⟩
  | place + 1 => (b.at? (place + 1)).getD (b.search place)

/-- The decimal digits of a number, the highest first. -/
def digitChars (n : Nat) : List Char :=
  Nat.toDigits 10 n

/-- How floats are written out: with a point and at least one digit on both sides of it while the
first digit stands between the fifth place after the point and the sixteenth before it, otherwise
with one digit before the point and a signed exponent. -/
def write (f : Float) : String :=
  let bits := f.toBits.toNat
  let sign := if bits / Nat.pow 2 63 = 1 then "-" else ""
  if bits % Nat.pow 2 63 = 0 then sign ++ "0.0"
  else
    let s := (Binary.ofBits bits).search 1410
    let digits := digitChars s.digits
    let trimmed := digits.reverse.dropWhile (· = '0') |>.reverse
    let text := String.ofList
    let point : Int := (digits.length : Int) - 1 + (s.place : Int) - 1100
    if 0 ≤ point ∧ point ≤ 15 then
      let whole := point.toNat + 1
      let front := trimmed.take whole
      let fraction := trimmed.drop whole
      sign ++ text (front ++ List.replicate (whole - front.length) '0') ++ "."
        ++ text (if fraction.isEmpty then ['0'] else fraction)
    else if -5 ≤ point ∧ point < 0 then
      sign ++ "0." ++ text (List.replicate ((-point).toNat - 1) '0' ++ trimmed)
    else
      let exponent := if point < 0 then "e-" else "e+"
      let fraction := trimmed.drop 1
      sign ++ text (trimmed.take 1) ++ (if fraction.isEmpty then "" else "." ++ text fraction)
        ++ exponent ++ point.natAbs.repr

end BearerAuth.Decimal
