import BearerAuth.Bytes

/-!
# Percent encoding

A character that a part of a URL does not hold as it is is written by the octets of its UTF-8 form,
each as a percent sign and two hexadecimal digits. Which characters these are differs from part to
part; those beyond ASCII and the controls are among them in every part.
-/

namespace BearerAuth.Url

/-- A hexadecimal digit, in upper case. -/
def upperHexDigit (n : Nat) : Char :=
  if n < 10 then Char.ofNat (0x30 + n) else Char.ofNat (0x37 + n)

/-- A percent sign and two hexadecimal digits. -/
def percentOctet (x : UInt8) : List Char :=
  ['%', upperHexDigit (x.toNat / 16), upperHexDigit (x.toNat % 16)]

/-- Controls, and the characters beyond ASCII. -/
def isControl (c : Char) : Bool :=
  c.toNat < 0x20 || 0x7f ≤ c.toNat

/-- The characters that a part of a URL does not hold as they are. -/
structure EncodeSet where
  /-- Those besides controls and the characters beyond ASCII. -/
  extra : List Char

namespace EncodeSet

/-- Whether a character has to be encoded. -/
def contains (set : EncodeSet) (c : Char) : Bool :=
  isControl c || set.extra.contains c

/-- For paths without segments, and for names of hosts. -/
def controls : EncodeSet := ⟨[]⟩

def fragment : EncodeSet := ⟨[' ', '"', '<', '>', '\x60']⟩

def path : EncodeSet := ⟨fragment.extra ++ ['#', '?', '\x7b', '\x7d']⟩

/-- For names and passwords of users. -/
def userinfo : EncodeSet :=
  ⟨path.extra ++ ['/', ':', ';', '=', '@', '[', '\\', ']', '^', '|']⟩

def query : EncodeSet := ⟨[' ', '"', '#', '<', '>']⟩

/-- For queries of the schemes that browsers know. -/
def specialQuery : EncodeSet := ⟨query.extra ++ ['\'']⟩

end EncodeSet

/-- One character as a part of a URL holds it. -/
def percentChar (set : EncodeSet) (c : Char) : List Char :=
  if set.contains c then (Bytes.ofText (String.singleton c)).flatMap percentOctet else [c]

/-- A text as a part of a URL holds it. -/
def percentEncode (set : EncodeSet) (text : List Char) : List Char :=
  text.flatMap (percentChar set)

/-- The octets that a text stands for. A percent sign without two digits after it stands for
itself. -/
def percentDecode : Bytes → Bytes
  | 0x25 :: h :: l :: rest =>
    match Bytes.hexValue? (Char.ofNat h.toNat), Bytes.hexValue? (Char.ofNat l.toNat) with
    | some h, some l => UInt8.ofNat (h * 16 + l) :: percentDecode rest
    | _, _ => 0x25 :: percentDecode (h :: l :: rest)
  | x :: rest => x :: percentDecode rest
  | [] => []

end BearerAuth.Url
