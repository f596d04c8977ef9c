/-!
# Ranges of code points

Tables of characters are lists of ranges in increasing order, each with its first and its last code
point, alone or with a value.
-/

namespace BearerAuth.Text

/-- Whether a code point lies in one of some ranges in increasing order. -/
def inRanges (n : Nat) : List (Nat × Nat) → Bool
  | [] => false
  | (first, last) :: later =>
    if n < first then false else n ≤ last || inRanges n later

/-- The value of the range in which a code point lies. -/
def valueInRanges? {α : Type} (n : Nat) : List (Nat × Nat × α) → Option α
  | [] => none
  | (first, last, value) :: later =>
    if n < first then none else if n ≤ last then some value else valueInRanges? n later

end BearerAuth.Text
