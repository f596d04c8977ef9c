/-!
# Network addresses

Addresses of four octets are written in decimal with points between them; in a URL each part may
also be octal or hexadecimal, and the last part may stand for several octets. Addresses of eight
groups are written in hexadecimal with colons between them, and once a run of zero groups may be
left out. When such an address is written, the first of the longest runs of two or more zero groups
is left out.
-/

namespace BearerAuth.Url

def digit? (base : Nat) (c : Char) : Option Nat :=
  let value? :=
    if '0' ≤ c ∧ c ≤ '9' then some (c.toNat - 0x30)
    else if 'a' ≤ c ∧ c ≤ 'z' then some (c.toNat - 0x57)
    else if 'A' ≤ c ∧ c ≤ 'Z' then some (c.toNat - 0x37)
    else none
  value?.filter (· < base)

def number? (base : Nat) (digits : List Char) : Option Nat :=
  digits.foldlM (fun n c => (n * base + ·) <$> digit? base c) 0

def partsBetween (separator : Char) (text : List Char) : List (List Char) :=
  text.splitOn separator

/-- Parts with a separator between them. -/
def separated (separator : Char) (parts : List (List Char)) : List Char :=
  [separator].intercalate parts

/-- An address of four octets. -/
structure Ipv4 where
  value : Nat
  deriving DecidableEq, Repr

namespace Ipv4

/-- A part of an address in decimal, octal after a zero, or hexadecimal. -/
def part? : List Char → Option Nat
  | [] => none
  | '0' :: 'x' :: digits | '0' :: 'X' :: digits => number? 16 digits
  | '0' :: d :: digits => number? 8 (d :: digits)
  | digits => number? 10 digits

/-- The parts of a text, without an empty one at the end. -/
def parts (text : List Char) : List (List Char) :=
  let parts := partsBetween '.' text
  if parts.getLast? = some [] then parts.dropLast else parts

/-- Whether a name has to be an address because its last part is a number. -/
def endsInNumber (text : List Char) : Bool :=
  match (parts text).getLast? with
  | none => false
  | some last => (!last.isEmpty && last.all Char.isDigit) || (part? last).isSome

/-- The address that a text writes. -/
def read? (text : List Char) : Option Ipv4 := do
  let parts := parts text
  guard (parts.length ≤ 4)
  let numbers ← parts.mapM part?
  let last ← numbers.getLast?
  let leading := numbers.dropLast
  guard (leading.all (· < 256) && last < Nat.pow 256 (4 - leading.length))
  return ⟨leading.foldr (fun n high => n * 0x1000000 + high / 256) 0 + last⟩

/-- An address in decimal. -/
def text (a : Ipv4) : List Char :=
  separated '.' (([0x1000000, 0x10000, 0x100, 1] : List Nat).map fun place =>
    Nat.toDigits 10 (a.value / place % 256))

/-- A part of an address in plain decimal. -/
def plainPart? (digits : List Char) : Option Nat := do
  guard (!digits.isEmpty && (digits.length = 1 || digits.head? != some '0'))
  let n ← number? 10 digits
  guard (n < 256)
  return n

/-- The address that four parts in plain decimal write. -/
def readPlain? (text : List Char) : Option Ipv4 := do
  match ← (partsBetween '.' text).mapM plainPart? with
  | [a, b, c, d] => return ⟨((a * 256 + b) * 256 + c) * 256 + d⟩
  | _ => none

end Ipv4

/-- An address of eight groups. -/
structure Ipv6 where
  groups : List Nat
  deriving DecidableEq, Repr

namespace Ipv6

/-- How many groups an address has. -/
def size : Nat := 8

/-- Puts an address together: the groups so far, and how many of them stand before the groups that
were left out. -/
def assemble (groups : List Nat) (gap : Option Nat) : Option Ipv6 :=
  match gap with
  | none => if groups.length = size then some ⟨groups⟩ else none
  | some before =>
    some ⟨groups.take before ++ List.replicate (size - groups.length) 0 ++ groups.drop before⟩

def readGroups (groups : List Nat) (gap : Option Nat) (text : List Char) : Option Ipv6 :=
  match text with
  | [] => assemble groups gap
  | c :: rest =>
    let taken := groups.length + (if gap.isSome then 1 else 0)
    if taken = size then none
    else if c = ':' then
      if gap.isSome then none else readGroups groups (some groups.length) rest
    else
      let digits := ((c :: rest).takeWhile fun c => (digit? 16 c).isSome).take 4
      match _h : (c :: rest).drop digits.length with
      | [] => do assemble (groups ++ [← number? 16 digits]) gap
      | '.' :: _ =>
        if digits.isEmpty ∨ 6 < taken then none
        else do
          let tail ← Ipv4.readPlain? (c :: rest)
          assemble (groups ++ [tail.value / 65536, tail.value % 65536]) gap
      | ':' :: [] => none
      | ':' :: next :: later => do
        readGroups (groups ++ [← number? 16 digits]) gap (next :: later)
      | _ => none
termination_by text.length
decreasing_by
  · simp
  · have := congrArg List.length _h
    simp at this ⊢
    omega

/-- The address that a text writes. -/
def read? (text : List Char) : Option Ipv6 :=
  match text with
  | ':' :: ':' :: rest => readGroups [] (some 0) rest
  | ':' :: _ => none
  | [_] | [] => none
  | text => readGroups [] none text

/-- The length of the run of zeros at the front. -/
def zeros (groups : List Nat) : Nat :=
  (groups.takeWhile (· = 0)).length

/-- Where the first of the longest runs of zeros begins, and its length. -/
def longestZeros : List Nat → Nat × Nat
  | [] => (0, 0)
  | g :: later =>
    let (start, length) := longestZeros later
    let here := zeros (g :: later)
    if length ≤ here then (0, here) else (start + 1, length)

def groupsText (groups : List Nat) : List Char :=
  separated ':' (groups.map (Nat.toDigits 16))

/-- An address in hexadecimal. -/
def text (a : Ipv6) : List Char :=
  let (start, length) := longestZeros a.groups
  if length < 2 then groupsText a.groups
  else groupsText (a.groups.take start) ++ ':' :: ':' :: groupsText (a.groups.drop (start + length))

end Ipv6

end BearerAuth.Url
