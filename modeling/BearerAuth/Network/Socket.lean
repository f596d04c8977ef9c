import BearerAuth.Url.Address

/-!
# Sockets

A socket is the address of a host with a port. In its text an address of eight groups stands in
brackets, where a zone may follow it, and one that carries an address of four octets shows that
address in decimal.
-/

namespace BearerAuth.Network

open Url

/-- The address of a host. -/
inductive HostAddress
  | four (a : Ipv4)
  | six (a : Ipv6)
  deriving DecidableEq, Repr

namespace HostAddress

/-- The address of four octets that a text writes, also in octal or hexadecimal and with fewer
parts. -/
def readLoose? (text : List Char) : Option Ipv4 :=
  let isEmpty part := part = [] ∨ part = ['0', 'x'] ∨ part = ['0', 'X']
  if (partsBetween '.' text).any isEmpty then none else Ipv4.read? text

def read? (text : List Char) : Option HostAddress :=
  match Ipv4.readPlain? text with
  | some a => some (four a)
  | none => (Ipv6.read? text).map six

/-- The address of four octets that one of eight groups carries. -/
def carried? (a : Ipv6) : Option Ipv4 :=
  match a.groups with
  | [0, 0, 0, 0, 0, 0xffff, high, low] => some ⟨high * 65536 + low⟩
  | _ => none

def text : HostAddress → List Char
  | four a => a.text
  | six a =>
    match carried? a with
    | some inner => "::ffff:".toList ++ inner.text
    | none => a.text

end HostAddress

/-- The address of a host with a port. -/
structure Socket where
  host : HostAddress
  /-- The zone in which an address of eight groups is meant; zero stands for all of them. -/
  zone : Nat
  port : Nat
  deriving DecidableEq, Repr

namespace Socket

/-- The number below a limit that digits write. -/
def readBelow? (limit : Nat) (digits : List Char) : Option Nat := do
  guard !digits.isEmpty
  let n ← number? 10 digits
  guard (n < limit)
  return n

/-- The port that digits write. -/
def readPort? : List Char → Option Nat := readBelow? 0x10000

/-- The zone after an address. -/
def readZone? : List Char → Option Nat
  | [] => some 0
  | '%' :: digits => readBelow? 0x100000000 digits
  | _ => none

/-- The socket that a text writes. -/
def read? : List Char → Option Socket
  | '[' :: text => do
    let inside := text.takeWhile (· ≠ ']')
    let a ← Ipv6.read? (inside.takeWhile (· ≠ '%'))
    let zone ← readZone? (inside.dropWhile (· ≠ '%'))
    match text.dropWhile (· ≠ ']') with
    | ']' :: ':' :: digits => return ⟨.six a, zone, ← readPort? digits⟩
    | _ => none
  | text => do
    let a ← Ipv4.readPlain? (text.takeWhile (· ≠ ':'))
    return ⟨.four a, 0, ← readPort? ((text.dropWhile (· ≠ ':')).drop 1)⟩

/-- The socket with port zero of a host whose name is an address. -/
def ofName? (name : List Char) : Option Socket :=
  match HostAddress.read? name, HostAddress.readLoose? name with
  | some a, _ => some ⟨a, 0, 0⟩
  | none, some a => some ⟨.four a, 0, 0⟩
  | none, none => do
    let a ← Ipv6.read? (name.takeWhile (· ≠ '%'))
    return ⟨.six a, ← readZone? (name.dropWhile (· ≠ '%')), 0⟩

/-- The text of a zone after an address. -/
def zoneText (zone : Nat) : List Char :=
  if zone = 0 then [] else '%' :: Nat.toDigits 10 zone

def text (s : Socket) : String :=
  let host := match s.host with
    | .four _ => s.host.text
    | .six _ => '[' :: (s.host.text ++ zoneText s.zone ++ [']'])
  String.ofList (host ++ ':' :: Nat.toDigits 10 s.port)

end Socket

end BearerAuth.Network
