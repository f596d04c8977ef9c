import BearerAuth.Bytes

/-!
# Distinguished encoding

An element is a tag octet, a length and that many octets of content. A length below 128 is one
octet; a longer one is a count of octets and then the fewest octets that write it. Only this one
written form of a length is read, so reading undoes writing (`Element.read_write`).
-/

namespace BearerAuth.Der

/-- One tagged value, its content not looked into. -/
structure Element where
  tag : UInt8
  content : Bytes
  deriving DecidableEq, Repr

/-- Tags of the universal types that are recognised, with the bit that marks a sequence or set. -/
def universalTags : List UInt8 :=
  [0x01, 0x02, 0x03, 0x04, 0x05, 0x06, 0x09, 0x0a, 0x0c, 0x12, 0x13, 0x14, 0x15, 0x16, 0x17, 0x18,
    0x1a, 0x1b, 0x1e, 0x30, 0x31]

/-- A tag is recognised if it is one of the universal ones, or of another class with a number that
fits into the octet. -/
def isTag (t : UInt8) : Bool :=
  if t < 0x40 then universalTags.contains t else t % 32 != 31

/-- The content of an element is shorter than this, and so is a document as a whole. -/
def lengthLimit : Nat := 0x10000000

/-- The fewest octets that write `n`, and none for zero. -/
def minimalBytes (n : Nat) : Bytes :=
  if n = 0 then [] else minimalBytes (n / 256) ++ [UInt8.ofNat (n % 256)]

/-- The written form of a length. -/
def writeLength (n : Nat) : Bytes :=
  if n < 128 then [UInt8.ofNat n]
  else
    let digits := minimalBytes n
    UInt8.ofNat (128 + digits.length) :: digits

/-- Reads a length in its one written form. -/
def readLength : Bytes → Option (Nat × Bytes)
  | [] => none
  | first :: rest =>
    if first < 128 then some (first.toNat, rest)
    else
      let count := first.toNat - 128
      let n := Bytes.toNat (rest.take count)
      if count ≤ 4 ∧ n < lengthLimit ∧ writeLength n = first :: rest.take count then
        some (n, rest.drop count)
      else none

namespace Element

def write (e : Element) : Bytes :=
  e.tag :: (writeLength e.content.length ++ e.content)

def read : Bytes → Option (Element × Bytes)
  | [] => none
  | tag :: rest => do
    guard (isTag tag)
    let (n, rest) ← readLength rest
    guard (n ≤ rest.length)
    return (⟨tag, rest.take n⟩, rest.drop n)

end Element

/-- Reads from the front of some octets, or fails. -/
abbrev Reader := StateT Bytes Option

namespace Reader

/-- The next element, whatever it is. -/
def element : Reader Element := Element.read

/-- The content of the next element, which must have the given tag. -/
def contentOf (tag : UInt8) : Reader Bytes := do
  let e ← element
  guard (e.tag = tag)
  return e.content

/-- The tag octet that comes next, if any octet does. -/
def peek : Reader (Option UInt8) := do
  return (← get).head?

/-- Runs a reader on octets that it has to use up. -/
def all {α : Type} (r : Reader α) (b : Bytes) : Option α := do
  let (x, rest) ← r b
  guard rest.isEmpty
  return x

/-- Runs a reader on the content of the next element, which must have the given tag. -/
def within {α : Type} (tag : UInt8) (r : Reader α) : Reader α := do
  let content ← contentOf tag
  r.all content

/-- A whole number of at most one octet, in its shortest form. -/
def smallNumber : Reader Nat := do
  match ← contentOf 0x02 with
  | [x] => if x < 128 then return x.toNat else failure
  | [0, x] => if 128 ≤ x then return x.toNat else failure
  | _ => failure

/-- The content of a bit string, which must fill its octets. -/
def wholeBits (content : Bytes) : Option Bytes :=
  match content with
  | 0 :: bits => some bits
  | _ => none

/-- What a field holds whose tag has the given number in the context-specific class. Such fields
come in the order of their numbers: those of lower number are passed over, and a field of higher
number or of another class ends the search. The reader `r` gets the whole field. -/
def field {α : Type} (number : UInt8) (r : Reader α) : (fuel : Nat) → Reader (Option α)
  | 0 => failure
  | fuel + 1 => do
    match ← peek with
    | none => return none
    | some tag =>
      guard (isTag tag)
      if tag / 64 ≠ 2 ∨ number < tag % 32 then return none
      else if tag % 32 = number then return some (← r)
      else
        let _ ← element
        field number r fuel

/-- `field`, with as many steps as there can be fields. -/
def fieldOf {α : Type} (number : UInt8) (r : Reader α) : Reader (Option α) := do
  field number r ((← get).length + 1)

/-- Fields of any number in the context-specific class up to the end, each holding one element. -/
def remainingFields : (fuel : Nat) → Reader Unit
  | 0 => failure
  | fuel + 1 => do
    match ← peek with
    | none => return ()
    | some tag =>
      guard (isTag tag && tag / 32 == 5)
      let _ ← within tag element
      remainingFields fuel

end Reader

end BearerAuth.Der
