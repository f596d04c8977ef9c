import BearerAuth.Url.Address
import BearerAuth.Url.DomainName
import BearerAuth.Url.Error
import BearerAuth.Url.Percent

/-!
# Hosts

A host is a name or an address. In the schemes that browsers know, a name is percent-decoded,
brought to lower case and checked, and one that ends in a number has to be an address of four octets
(`Host.read`); in other schemes it is kept as it is (`Host.readBare`). No name holds a colon or a
bracket, so the text of a host tells its kind.

Names are of ASCII characters. The mapping that makes international labels of other characters is
left out, and a decoded name that holds any is refused.
-/

namespace BearerAuth.Url

/-- The hosts that a URL may name. -/
inductive Host
  /-- No host. -/
  | empty
  | name (n : List Char)
  | ipv4 (a : Ipv4)
  | ipv6 (a : Ipv6)
  deriving DecidableEq, Repr

namespace Host

def text : Host → List Char
  | empty => []
  | name n => n
  | ipv4 a => a.text
  | ipv6 a => '[' :: (a.text ++ [']'])

/-- Reads an address in brackets; the opening one has been taken off. -/
def readBracketed (text : List Char) : Except Error Host :=
  match text.reverse with
  | ']' :: inside =>
    match Ipv6.read? inside.reverse with
    | some a => .ok (ipv6 a)
    | none => .error .invalidIpv6
  | _ => .error .invalidIpv6

/-- Characters that no decoded name holds. -/
def isForbidden (c : Char) : Bool :=
  c ≤ ' ' || isControl c
    || ['%', '#', '/', ':', '<', '>', '?', '@', '[', '\\', ']', '^', '|'].contains c

/-- Reads a host of a scheme that browsers know. -/
def read (text : List Char) : Except Error Host :=
  match text with
  | '[' :: inside => readBracketed inside
  | text =>
    match (percentDecode (Bytes.ofText (String.ofList text))).toText? with
    | none => .error .invalidDomainName
    | some decoded =>
      let n := decoded.toList.map Char.toLower
      if n.any isForbidden || !DomainName.isValid n then .error .invalidDomainName
      else if n.isEmpty then .error .emptyHost
      else if Ipv4.endsInNumber n then
        match Ipv4.read? n with
        | some a => .ok (ipv4 a)
        | none => .error .invalidIpv4
      else .ok (name n)

/-- Characters that no name of another scheme holds. -/
def isForbiddenBare (c : Char) : Bool :=
  ['\x00', '\t', '\n', '\r', ' '].contains c
    || ['#', '/', ':', '<', '>', '?', '@', '[', '\\', ']', '^', '|'].contains c

/-- Reads a host of another scheme. -/
def readBare (text : List Char) : Except Error Host :=
  match text with
  | '[' :: inside => readBracketed inside
  | [] => .ok empty
  | text =>
    if text.any isForbiddenBare then .error .invalidDomainCharacter
    else .ok (name (percentEncode .controls text))

end Host

end BearerAuth.Url
