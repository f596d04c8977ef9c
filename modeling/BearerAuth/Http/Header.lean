import BearerAuth.Bytes

/-!
# Headers

A header has a name, in which case is of no account, and one or more values. Names come in the
order in which they were first given, and the values of one name come together. To `append` a value
adds it to those that its name has; to `set` one puts it into their place.
-/

namespace BearerAuth.Http

/-- The name of a header, in lower case. -/
structure HeaderName where
  text : String
  deriving DecidableEq, Repr

namespace HeaderName

def ofText (s : String) : HeaderName :=
  ⟨String.ofList (s.toList.map Char.toLower)⟩

/-- The header that carries a credential. -/
def authorization : HeaderName := ⟨"authorization"⟩

/-- The header that tells the media type of the body. -/
def contentType : HeaderName := ⟨"content-type"⟩

end HeaderName

/-- Whether an octet may occur in a value: it is a tab, or neither a control nor the delete. -/
def isValueOctet (b : UInt8) : Bool :=
  b = 9 || (32 ≤ b && b != 127)

/-- A value of a header. -/
structure HeaderValue where
  octets : Bytes
  /-- Whether the value is kept from view. -/
  sensitive : Bool
  octets_legal : octets.all isValueOctet = true
  deriving DecidableEq, Repr

namespace HeaderValue

/-- A value with the given octets, if they are legal. -/
def ofOctets? (octets : Bytes) : Option HeaderValue :=
  if h : octets.all isValueOctet = true then some ⟨octets, false, h⟩ else none

/-- The value, kept from view. -/
def asSensitive (v : HeaderValue) : HeaderValue :=
  { v with sensitive := true }

def shownOctet (b : UInt8) : List Char :=
  if b = 34 then ['\\', '"']
  else if b = 9 || (32 ≤ b && b < 127) then [Char.ofNat b.toNat]
  else '\\' :: 'x' :: Nat.toDigits 16 b.toNat

def shown (v : HeaderValue) : String :=
  if v.sensitive then "Sensitive"
  else String.ofList ('"' :: (v.octets.flatMap shownOctet ++ ['"']))

end HeaderValue

/-- Header names with their values. -/
structure Headers where
  fields : List (HeaderName × HeaderValue)
  deriving DecidableEq, Repr

namespace Headers

def empty : Headers := ⟨[]⟩

def values (h : Headers) (name : HeaderName) : List HeaderValue :=
  (h.fields.filter (·.1 = name)).map (·.2)

/-- Puts a value after those that its name has, or at the end. -/
def appendField (name : HeaderName) (value : HeaderValue) :
    List (HeaderName × HeaderValue) → List (HeaderName × HeaderValue)
  | [] => [(name, value)]
  | f :: later =>
    if f.1 = name ∧ later.all (·.1 ≠ name) then f :: (name, value) :: later
    else f :: appendField name value later

/-- Puts a value into the place of the first that its name has, without the others, or at the
end. -/
def setField (name : HeaderName) (value : HeaderValue) :
    List (HeaderName × HeaderValue) → List (HeaderName × HeaderValue)
  | [] => [(name, value)]
  | f :: later =>
    if f.1 = name then (name, value) :: later.filter (·.1 ≠ name)
    else f :: setField name value later

/-- Adds a value to those that its name has. -/
def append (h : Headers) (name : HeaderName) (value : HeaderValue) : Headers :=
  ⟨appendField name value h.fields⟩

/-- Makes a value the only one of its name. -/
def set (h : Headers) (name : HeaderName) (value : HeaderValue) : Headers :=
  ⟨setField name value h.fields⟩

def shown (h : Headers) : String :=
  "\x7b" ++ ", ".intercalate (h.fields.map fun (name, value) =>
    "\"" ++ name.text ++ "\": " ++ value.shown) ++ "\x7d"

end Headers

end BearerAuth.Http
