/-!
# Padded decimals

A number may be padded with leading zeros to a width, and the digits of a fraction may be written
without trailing zeros.
-/

namespace BearerAuth.Decimal

/-- At least `width` digits. -/
def padded (width n : Nat) : List Char :=
  let digits := Nat.toDigits 10 n
  List.replicate (width - digits.length) '0' ++ digits

/-- The digits of `n` as a fraction of `width` places, without trailing zeros. -/
def fraction (width n : Nat) : List Char :=
  (padded width n).reverse.dropWhile (· = '0') |>.reverse

end BearerAuth.Decimal
