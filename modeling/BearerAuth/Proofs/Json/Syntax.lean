import BearerAuth.Proofs.Json.Integer

/-!
# The grammar of texts

What is well formed is said here without a reader. Between the quotes of a literal a character
stands for itself, or is escaped by a letter or by the digits of its number, one beyond the first
65536 by a pair of surrogates (`Literal.Denotes`). A number has digits without a zero before others,
perhaps a sign, a fraction and an exponent (`NumberText`). Values nest as deep as one likes, with
blanks wherever they may stand (`IsValue`). An object at the top (`ObjectText`) keeps its members as
a list, so that one can say which values a name has (`ObjectText.valuesOf`).
-/

namespace BearerAuth.Json

/-- Octets that are all blank. -/
abbrev Blanks := { b : Bytes // IsBlanks b }

namespace Literal

/-- The octet of a hexadecimal digit, of either case, and its value. -/
inductive IsHexDigit : UInt8 → Nat → Prop
  | decimal {d : Nat} (h : d < 10) : IsHexDigit (UInt8.ofNat (0x30 + d)) d
  | lower {d : Nat} (h : d < 6) : IsHexDigit (UInt8.ofNat (0x61 + d)) (10 + d)
  | upper {d : Nat} (h : d < 6) : IsHexDigit (UInt8.ofNat (0x41 + d)) (10 + d)

/-- An escape with the four hexadecimal digits of a number. -/
inductive IsUnit (n : Nat) : Bytes → Prop
  | mk {w x y z : UInt8} {i j k l : Nat} (hw : IsHexDigit w i) (hx : IsHexDigit x j)
    (hy : IsHexDigit y k) (hz : IsHexDigit z l) (hn : n = ((i * 16 + j) * 16 + k) * 16 + l) :
    IsUnit n [Octet.backslash, hexMark, w, x, y, z]

/-- The escapes of one letter, and what they stand for. -/
def letters : List (UInt8 × Char) :=
  [(0x22, '"'), (0x5c, '\\'), (0x2f, '/'), (0x62, '\x08'), (0x66, '\x0c'), (0x6e, '\n'),
    (0x72, '\r'), (0x74, '\t')]

/-- Whether a character may stand for itself in a literal. -/
def IsPlain (c : Char) : Prop :=
  0x20 ≤ c.toNat ∧ c ≠ '"' ∧ c ≠ '\\'

/-- What may stand between the quotes of a literal, and the characters that it denotes. One beyond
the first 65536 may be written as a pair of escapes. -/
inductive Denotes : Bytes → List Char → Prop
  | nil : Denotes [] []
  | plain {b : Bytes} {cs : List Char} {c : Char} (hc : IsPlain c) (h : Denotes b cs) :
    Denotes (String.utf8EncodeChar c ++ b) (c :: cs)
  | letter {b : Bytes} {cs : List Char} {x : UInt8} {c : Char} (hx : (x, c) ∈ letters)
    (h : Denotes b cs) : Denotes (Octet.backslash :: x :: b) (c :: cs)
  | unit {b u : Bytes} {cs : List Char} {c : Char} (hu : IsUnit c.toNat u) (h : Denotes b cs) :
    Denotes (u ++ b) (c :: cs)
  | pair {b high low : Bytes} {cs : List Char} {c : Char} (hc : 0x10000 ≤ c.toNat)
    (hhigh : IsUnit (0xd800 + (c.toNat - 0x10000) / 0x400) high)
    (hlow : IsUnit (0xdc00 + (c.toNat - 0x10000) % 0x400) low) (h : Denotes b cs) :
    Denotes (high ++ (low ++ b)) (c :: cs)

end Literal

/-- A string as it is written: what stands between its quotes, and the text that it denotes. -/
structure StringText where
  inside : Bytes
  denoted : String
  denotes : Literal.Denotes inside denoted.toList

def StringText.octets (t : StringText) : Bytes :=
  Octet.quote :: (t.inside ++ [Octet.quote])

/-- Digits, at least one. -/
structure Digits where
  octets : Bytes
  digits : ∀ x ∈ octets, isDigit x = true
  ne_nil : octets ≠ []

/-- An exponent as it is written. -/
structure ExponentText where
  mark : UInt8
  mark_eq : mark = 0x65 ∨ mark = 0x45
  /-- The sign, if there is one; whether it is a minus. -/
  sign : Option Bool
  digits : Digits

namespace ExponentText

variable (e : ExponentText)

def signOctets : Bytes :=
  match e.sign with
  | none => []
  | some true => [Octet.minus]
  | some false => [Octet.plus]

def octets : Bytes :=
  e.mark :: (e.signOctets ++ e.digits.octets)

end ExponentText

/-- A number as it is written. -/
structure NumberText where
  negative : Bool
  whole : Bytes
  isDecimal_whole : IsDecimal whole
  fraction : Option Digits
  exponent : Option ExponentText

namespace NumberText

variable (n : NumberText)

def fractionOctets : Bytes :=
  n.fraction.elim [] fun ds => Octet.point :: ds.octets

def exponentOctets : Bytes :=
  n.exponent.elim [] ExponentText.octets

def octets : Bytes :=
  (if n.negative then [Octet.minus] else [])
    ++ (n.whole ++ (n.fractionOctets ++ n.exponentOctets))

/-- Whether an integer is written: no fraction, no exponent, and no zero with a sign. -/
def IsInteger : Prop :=
  n.fraction = none ∧ n.exponent = none ∧ (n.negative = true → 0 < Number.ofDigits n.whole)

/-- What the digits before fraction and exponent make, with the sign. -/
def integer : Int :=
  if n.negative then -(Number.ofDigits n.whole : Int) else Number.ofDigits n.whole

end NumberText

/-- A value in a list, with the blanks around it. -/
structure Item where
  before : Blanks
  value : Bytes
  after : Blanks

def Item.octets (i : Item) : Bytes :=
  i.before.val ++ (i.value ++ i.after.val)

/-- A member of an object: its key between blanks, and after a colon its value between blanks. -/
structure Member where
  before : Blanks
  key : StringText
  between : Blanks
  item : Item

/-- A member after its key. -/
def Member.fromColon (m : Member) : Bytes :=
  m.between.val ++ Octet.colon :: m.item.octets

def Member.octets (m : Member) : Bytes :=
  m.before.val ++ (m.key.octets ++ m.fromColon)

/-- The values of the members of a name, which is compared with what the keys denote. -/
def Member.valuesOf (members : List Member) (name : String) : List Bytes :=
  (members.filter fun m => m.key.denoted = name).map fun m => m.item.value

/-- The octets of well-formed values, whatever blanks they have and however deep they nest. -/
inductive IsValue : Bytes → Prop
  | null : IsValue [0x6e, 0x75, 0x6c, 0x6c]
  | yes : IsValue [0x74, 0x72, 0x75, 0x65]
  | no : IsValue [0x66, 0x61, 0x6c, 0x73, 0x65]
  | number (n : NumberText) : IsValue n.octets
  | string (t : StringText) : IsValue t.octets
  | list (blanks : Blanks) {items : List Item} (h : ∀ i ∈ items, IsValue i.value) :
    IsValue (Octet.openList
      :: (blanks.val ++ (joined (items.map Item.octets) ++ [Octet.closeList])))
  | object (blanks : Blanks) {members : List Member} (h : ∀ m ∈ members, IsValue m.item.value) :
    IsValue (Octet.openObject
      :: (blanks.val ++ (joined (members.map Member.octets) ++ [Octet.closeObject])))

/-- The text of an object. -/
structure ObjectText where
  before : Blanks
  blanks : Blanks
  members : List Member
  values : ∀ m ∈ members, IsValue m.item.value
  after : Blanks

namespace ObjectText

variable (o : ObjectText)

def octets : Bytes :=
  o.before.val ++ Octet.openObject :: (o.blanks.val
    ++ (joined (o.members.map Member.octets) ++ Octet.closeObject :: o.after.val))

/-- The values of the members of a name. -/
def valuesOf (name : String) : List Bytes :=
  Member.valuesOf o.members name

end ObjectText

/-- Whether a value is a string that denotes a text. -/
def DenotesText (v : Bytes) (s : String) : Prop :=
  ∃ t : StringText, v = t.octets ∧ s = t.denoted

/-- Whether a value is an integer of 64 bits. -/
def DenotesInteger (v : Bytes) (i : Int64) : Prop :=
  ∃ n : NumberText, v = n.octets ∧ n.IsInteger ∧ n.integer = i.toInt

end BearerAuth.Json
