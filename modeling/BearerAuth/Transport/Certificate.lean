import BearerAuth.Base64
import BearerAuth.Der.Element

/-!
# Trust anchors

A trust anchor is a certificate in distinguished encoding, and a text may hold any number of them,
each in textual armour. Of a certificate only the frame is looked into: the fields of its body are
there in their order, its two mentions of the signature algorithm agree, and the extensions whose
meaning is known come at most once and hold a sequence. A certificate without a version has no
extensions.

Armour is read line by line. What stands before the first line that begins a block is passed over;
a line that begins a block inside another one renames it, and the symbols gathered before stay.
-/

namespace BearerAuth.Transport

open Der Reader

/-- Certificates, in either form. -/
inductive Certificates
  /-- One certificate in distinguished encoding. -/
  | encoded (octets : Bytes)
  /-- Armoured certificates. -/
  | armoured (text : Bytes)
  deriving DecidableEq, Repr

namespace Certificates

/-- Some octets that begin with dashes are armoured. -/
def ofOctets (octets : Bytes) : Certificates :=
  if (Bytes.ofText "-----").isPrefixOf octets then armoured octets else encoded octets

/-- An extension: its identifier, whether it is critical, and its content. -/
structure Extension where
  identifier : Bytes
  critical : Bool
  content : Bytes

def readExtension : Reader Extension := do
  let identifier ← contentOf 0x06
  let critical ← match ← peek with
    | some 0x01 =>
      match ← contentOf 0x01 with
      | [0xff] => pure true
      | [0x00] => pure false
      | _ => failure
    | _ => pure false
  return ⟨identifier, critical, ← contentOf 0x04⟩

/-- Reads extensions up to the end. -/
def readExtensions : (fuel : Nat) → Reader (List Extension)
  | 0 => failure
  | fuel + 1 => do
    match ← peek with
    | none => return []
    | some _ => return (← within 0x30 readExtension) :: (← readExtensions fuel)

/-- The extensions whose meaning is known: the uses of the key, other names of the subject, the
basic constraints, constraints on names, where revocations are published, and further uses. -/
def known : List Bytes :=
  ([15, 17, 19, 30, 31, 37] : List UInt8).map fun number => [0x55, 0x1d, number]

/-- The uses of the key, which are a bit string; the content of other extensions is a sequence. -/
def keyUsage : Bytes := [0x55, 0x1d, 15]

/-- Whether an extension is well formed, as far as its meaning is known. -/
def Extension.isSound (e : Extension) : Bool :=
  !known.contains e.identifier || e.identifier = keyUsage
    || ((contentOf 0x30).all e.content).isSome

/-- The known extensions are well formed and come at most once. -/
def areSound (extensions : List Extension) : Bool :=
  extensions.all (·.isSound) &&
    known.all fun identifier => extensions.countP (·.identifier = identifier) ≤ 1

/-- The fields after the version: the serial number, the algorithm of the signature, the issuer,
the time of validity, the subject and its key. The algorithm is the result. -/
def readNames : Reader Bytes := do
  let _ ← contentOf 0x02
  let algorithm ← contentOf 0x30
  let _ ← contentOf 0x30
  let _ ← contentOf 0x30
  let _ ← contentOf 0x30
  let _ ← contentOf 0x30
  return algorithm

/-- The body of a certificate of the third version. -/
def readThird : Reader Bytes := do
  let version ← within 0xa0 smallNumber
  guard (version = 2)
  let algorithm ← readNames
  match ← peek with
  | none => return algorithm
  | some _ =>
    let extensions ← within 0xa3 do
      within 0x30 do readExtensions ((← get).length + 1)
    guard (areSound extensions)
    return algorithm

/-- The signed frame: a body, the algorithm of the signature, and the signature. -/
def readFrame : Reader (Bytes × Bytes) := do
  let body ← contentOf 0x30
  let algorithm ← contentOf 0x30
  let _ ← wholeBits (← contentOf 0x03)
  return (body, algorithm)

/-- The content of a certificate is shorter than this. -/
def certificateLimit : Nat := 0xffff

def isCertificate (octets : Bytes) : Bool :=
  match (contentOf 0x30).all octets with
  | none => false
  | some content =>
    match readFrame.all content with
    | none => false
    | some (body, algorithm) =>
      content.length < certificateLimit &&
        (readThird.all body = some algorithm || (readNames.all body).isSome)

/-- The octets of base64 symbols, blanks among them passed over. Padding is complete or left out,
and spare bits are of no account. -/
def symbolsOctets? (symbols : Bytes) : Option Bytes :=
  let text := (symbols.filter fun x => !(x = 0x20 || (9 ≤ x && x ≤ 13))).map fun x =>
    Char.ofNat x.toNat
  let body := text.reverse.dropWhile (· = '=') |>.reverse
  if body.length = text.length ∨ (text.length % 4 = 0 ∧ text.length - body.length ≤ 2) then
    Base64.decodeLoosely .standard body
  else none

/-- What is known of a text when some of its lines are read: the label of the block that is open,
the symbols gathered, and the certificates before it. -/
structure Scan where
  opened : Option Bytes
  symbols : Bytes
  found : List Bytes

def beginOctets : Bytes := Bytes.ofText "-----BEGIN "

def endOctets (label : Bytes) : Bytes :=
  Bytes.ofText "-----END " ++ label ++ Bytes.ofText "-----"

def certificateLabel : Bytes := Bytes.ofText "CERTIFICATE"

/-- The labels of blocks that are looked into. -/
def labels : List Bytes :=
  certificateLabel :: ["PUBLIC KEY", "RSA PRIVATE KEY", "PRIVATE KEY", "EC PRIVATE KEY", "X509 CRL",
    "CERTIFICATE REQUEST", "ECHCONFIG"].map Bytes.ofText

/-- The label of a line that begins a block: what stands before its last five dashes, between and
after which there may be blanks. -/
def beginLabel? (line : Bytes) : Option Bytes :=
  let isDash (x : UInt8) := x = 0x2d
  let tail := line.reverse.takeWhile fun x => isDash x || x = 0x20
  let fromDash := tail.reverse.dropWhile fun x => !isDash x
  if tail.countP isDash = 5 then
    some ((line.take (line.length - fromDash.length)).drop beginOctets.length)
  else none

def Scan.line (s : Scan) (line : Bytes) : Option Scan :=
  if beginOctets.isPrefixOf line then do
    return { s with opened := some (← beginLabel? line) }
  else
    match s.opened with
    | none => some s
    | some label =>
      if !(endOctets label).isPrefixOf line then some { s with symbols := s.symbols ++ line }
      else if !labels.contains label then some ⟨none, [], s.found⟩
      else do
        let octets ← symbolsOctets? s.symbols
        return ⟨none, [], if label = certificateLabel then s.found ++ [octets] else s.found⟩

/-- The certificates in a text, in which every block that is begun must end. -/
def scan? (text : Bytes) : Option (List Bytes) := do
  let isEnd (x : UInt8) := x = 10 || x = 13
  let lines := text.splitBy fun a b => !isEnd a && !isEnd b
  let s ← lines.foldlM Scan.line ⟨none, [], []⟩
  guard s.opened.isNone
  return s.found

/-- Whether trust can be anchored in them. -/
def areValid : Certificates → Bool
  | encoded octets => isCertificate octets
  | armoured text => (scan? text).any (·.all isCertificate)

end Certificates

end BearerAuth.Transport
