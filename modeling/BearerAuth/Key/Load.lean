import BearerAuth.Key.File
import BearerAuth.Key.Info
import BearerAuth.Pem

/-!
# Loading private keys

A key text is looked at in layers: the armour, its label, the outer structure, the algorithm, the
curve, the key body. The verdict is that of the first layer that fails. Only keys on P-256 load.

A key file is read as a text first.
-/

namespace BearerAuth.Key

/-- Which layer of a key text is not well formed. -/
inductive Layer
  | armour
  | encoding
  deriving DecidableEq, Repr

/-- Why a key did not load. -/
inductive LoadError
  /-- The file could not be read. -/
  | unreadable (path : String) (fault : FileFault)
  /-- The text is not an armoured private key; without a layer, its label is another. -/
  | malformed (layer : Option Layer)
  /-- The key is not one of an elliptic curve. -/
  | notElliptic (algorithm : String)
  /-- The key is on another curve than P-256. -/
  | unsupportedCurve (curve : String)
  /-- The key body is not that of a key on P-256. -/
  | invalidBody
  deriving DecidableEq, Repr

namespace LoadError

/-- What went wrong, in words. -/
def message : LoadError → String
  | unreadable path _ => "Failed to read key file " ++ path ++ "."
  | malformed _ => "Key input does not contain valid PKCS#8 PEM data."
  | notElliptic algorithm =>
    "Private key is not an elliptic-curve key (algorithm " ++ algorithm ++ ")."
  | unsupportedCurve curve =>
    "Private key uses unsupported curve " ++ curve ++ "; expected P-256."
  | invalidBody => "Private key body is invalid."

end LoadError

/-- The label of an armoured private key. -/
def pemLabel : String := "PRIVATE KEY"

/-- Shows which curve other than P-256 a key is on. -/
def curveText (curve : Der.Oid) : String :=
  if curve = curveOid .p384 then Curve.p384.label else curve.dotted

/-- Loads the key that octets in distinguished encoding hold. -/
def ofDer (body : Bytes) : Except LoadError PrivateKey := do
  let some info := Info.read? body | throw (.malformed (some .encoding))
  if info.algorithm ≠ ecPublicKey then throw (.notElliptic info.algorithm.dotted)
  let some curve := info.curve? | throw (.unsupportedCurve "<missing>")
  if curve ≠ curveOid .p256 then throw (.unsupportedCurve (curveText curve))
  let some key := (EcBody.read? info.body).bind (EcBody.key? .p256) | throw .invalidBody
  return key

/-- Whether octets are one sequence. There is a limit to all of them as there is to the content of
an element. -/
def isSequence (b : Bytes) : Bool :=
  b.length < Der.lengthLimit && ((Der.Reader.contentOf 0x30).all b).isSome

/-- Loads the key that a text holds in armour. What the armour holds must be one sequence, whatever
its label. -/
def ofPem (text : String) : Except LoadError PrivateKey := do
  let some document := Pem.Document.read? text.toList | throw (.malformed (some .armour))
  if !isSequence document.body then throw (.malformed (some .encoding))
  if document.label ≠ pemLabel then throw (.malformed none)
  ofDer document.body

/-- Loads the key of a file, given what reading the file gave. -/
def ofFile (path : String) (content : Except FileFault Bytes) : Except LoadError PrivateKey :=
  match content with
  | .error fault => throw (.unreadable path fault)
  | .ok octets =>
    match octets.toText? with
    | none => throw (.unreadable path .invalidData)
    | some text => ofPem text

end BearerAuth.Key
