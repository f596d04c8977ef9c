import BearerAuth.Bytes

/-!
# Indexes of characters

Charsets of several octets number their characters by rows and places. An index holds runs of
characters with consecutive numbers; a replacement character stands for a number without one.
-/

namespace BearerAuth.Text.Charset

/-- What stands for octets that are no character. -/
def replacement : Char := '\ufffd'

/-- Characters by their numbers. -/
structure Index where
  table : Array Char

namespace Index

/-- The index of some runs, each with the number of its first character, in increasing order. -/
def ofRuns (runs : List (Nat × String)) : Index :=
  ⟨runs.foldl (fun table (first, run) =>
    table ++ Array.replicate (first - table.size) replacement ++ run.toList.toArray) #[]⟩

/-- The character with a number. -/
def char? (i : Index) (n : Nat) : Option Char :=
  i.table[n]?.filter (· ≠ replacement)

end Index

/-- Whether an octet lies between two others. -/
def isBetween (first last x : UInt8) : Bool :=
  first ≤ x && x ≤ last

/-- How far an octet is above another one. -/
def above (first x : UInt8) : Nat :=
  x.toNat - first.toNat

/-- The octets of ASCII stand for themselves. -/
def ascii? (x : UInt8) : Option Char :=
  if x < 0x80 then some (Char.ofNat x.toNat) else none

/-- The characters of octets of which some stand alone and others, the leads, go before another
one. What a pair without a character leaves behind is read on from its second octet if that is
ASCII. -/
def decodePairs (single : UInt8 → Option Char) (isLead : UInt8 → Bool)
    (pair : UInt8 → UInt8 → Option (List Char)) : Bytes → List Char
  | [] => []
  | [x] => [(single x).getD replacement]
  | x :: y :: rest =>
    match single x with
    | some c => c :: decodePairs single isLead pair (y :: rest)
    | none =>
      if !isLead x then replacement :: decodePairs single isLead pair (y :: rest)
      else match pair x y with
        | some cs => cs ++ decodePairs single isLead pair rest
        | none =>
          replacement :: if y < 0x80 then decodePairs single isLead pair (y :: rest)
            else decodePairs single isLead pair rest

end BearerAuth.Text.Charset
