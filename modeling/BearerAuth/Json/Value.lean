import BearerAuth.Bytes
import BearerAuth.Json.Position

/-!
# Values and their written form

A value is written without blanks, the members of an object in the order in which it holds them.
In a string a double quote, a backslash and the controls are escaped, and every other octet stands
for itself. A number with a fraction or an exponent comes with the digits that were chosen for it.
Two things have no written form: an object with a key that is no text, and a part that refuses to
be written.
-/

namespace BearerAuth.Json

/-- The key of a member. -/
inductive Key
  | text (s : String)
  | octets (b : Bytes)
  deriving DecidableEq, Repr

/-- Why a value is not written. -/
inductive WriteError
  | keyNotString
  | refused (reason : String)
  deriving DecidableEq, Repr

/-- What is wrong, in words. -/
def WriteError.message : WriteError → String
  | keyNotString => "key must be a string"
  | refused reason => String.ofList (withoutPosition reason.toList)

/-- Values that are written. -/
inductive Value
  | null
  | boolean (b : Bool)
  | integer (n : Int)
  /-- A number with a fraction or an exponent, as it is written out. -/
  | decimal (written : String)
  | string (s : String)
  | list (values : List Value)
  | object (members : List (Key × Value))
  /-- A part that refuses to be written. -/
  | refusing (reason : String)
  deriving Inhabited

/-- The octet of a hexadecimal digit. -/
def hexOctet (n : Nat) : UInt8 :=
  UInt8.ofNat (if n < 10 then 0x30 + n else 0x57 + n)

/-- How an octet is written in a string. -/
def escaped (x : UInt8) : Bytes :=
  match x with
  | 0x22 => [0x5c, 0x22]
  | 0x5c => [0x5c, 0x5c]
  | 0x08 => [0x5c, 0x62]
  | 0x0c => [0x5c, 0x66]
  | 0x0a => [0x5c, 0x6e]
  | 0x0d => [0x5c, 0x72]
  | 0x09 => [0x5c, 0x74]
  | x =>
    if x < 0x20 then
      [0x5c, 0x75, 0x30, 0x30, hexOctet (x.toNat / 16), hexOctet (x.toNat % 16)]
    else [x]

def writeString (s : String) : Bytes :=
  0x22 :: ((Bytes.ofText s).flatMap escaped ++ [0x22])

/-- The key of a member, if it has a written form. -/
def Key.write : Key → Except WriteError Bytes
  | text s => .ok (writeString s)
  | octets _ => .error .keyNotString

/-- Parts with commas between them. -/
def joined : List Bytes → Bytes
  | [] => []
  | [part] => part
  | part :: later => part ++ 0x2c :: joined later

namespace Value

mutual

/-- The written form of a value. -/
def write : Value → Except WriteError Bytes
  | null => .ok [0x6e, 0x75, 0x6c, 0x6c]
  | boolean true => .ok [0x74, 0x72, 0x75, 0x65]
  | boolean false => .ok [0x66, 0x61, 0x6c, 0x73, 0x65]
  | integer n => .ok (Bytes.ofText n.repr)
  | decimal written => .ok (Bytes.ofText written)
  | string s => .ok (writeString s)
  | list values => do
    return 0x5b :: (joined (← writeAll values) ++ [0x5d])
  | object members => do
    return 0x7b :: (joined (← writeMembers members) ++ [0x7d])
  | refusing reason => .error (.refused reason)

/-- The written forms of values. -/
def writeAll : List Value → Except WriteError (List Bytes)
  | [] => .ok []
  | v :: later => do
    let part ← write v
    return part :: (← writeAll later)

/-- The written forms of members. -/
def writeMembers : List (Key × Value) → Except WriteError (List Bytes)
  | [] => .ok []
  | (key, v) :: later => do
    let key ← key.write
    let part ← write v
    return (key ++ 0x3a :: part) :: (← writeMembers later)

end

end Value

end BearerAuth.Json
