import BearerAuth.Ecdsa
import BearerAuth.Signing.Signer

/-!
# Elliptic-curve signers

A signer on P-256 writes a signature as its two halves in 32 octets each, leading zeros kept
(`Signing.raw`). What signs the digest may be anything (`DigestSigner`). It is an elliptic-curve
signature for any source of one-time secrets (`signDigest?`); that of `Signing.ecdsa` derives them
from the key, the digest and the number of the call, so two signatures of one input differ and none
repeats a secret for another digest.
-/

namespace BearerAuth.Signing

/-- Octets of one half of a signature. -/
def halfLength : Nat := 32

/-- A half at the end of its place, with zeros before it. -/
def padded (half : Bytes) : Bytes :=
  List.replicate (halfLength - half.length) 0 ++ half

/-- The two halves, one after the other. -/
def raw (r s : Bytes) : Bytes :=
  padded r ++ padded s

/-- The halves of a signature of the right length. -/
def halves? (signature : Bytes) : Option (Nat × Nat) :=
  if signature.length = 2 * halfLength then
    some (Bytes.toNat (signature.take halfLength), Bytes.toNat (signature.drop halfLength))
  else none

/-- A number between zero and the order of the curve, both excluded, for one signature. -/
structure OneTimeSecret (c : Curve) where
  value : Nat
  value_pos : 0 < value
  value_lt : value < c.order

/-- The secret that a seed stands for. -/
def OneTimeSecret.ofSeed (c : Curve) (seed : Nat) : OneTimeSecret c where
  value := seed % (c.order - 1) + 1
  value_pos := Nat.succ_pos _
  value_lt := by
    have hpos : 0 < c.order - 1 := by cases c <;> decide
    have := Nat.mod_lt seed hpos
    omega

/-- A source of one-time secrets: for a key, a digest and the number of the call. -/
abbrev SecretSource := (key : PrivateKey) → Bytes → Nat → OneTimeSecret key.curve

/-- Secrets from the key, the digest and the number of the call. -/
def derived : SecretSource := fun key digest call =>
  let seed := key.scalarBytes ++ digest ++ Bytes.ofNat 8 call
  .ofSeed key.curve (Bytes.toNat (Hash.sha512.digest seed))

/-- Makes the two halves of a signature: with a key, of a digest, at the call of a given number. -/
abbrev DigestSigner := PrivateKey → Bytes → Nat → Option (Nat × Nat)

def signDigest? (secrets : SecretSource) : DigestSigner := fun key digest call =>
  Ecdsa.sign? key.curve key.scalar (Ecdsa.ofDigest key.curve digest) (secrets key digest call).value

/-- Signs inputs with a key that may be missing, or be on a curve other than P-256. -/
def ecdsaWith (sign? : DigestSigner) (key : Option PrivateKey) (hash : Hash) : SigningMethod :=
  fun call input =>
    match key with
    | none => .error .missingKey
    | some key =>
      if key.curve = .p256 then
        match sign? key (hash.digest input) call with
        | some (r, s) =>
          .ok (raw (Bytes.ofNat key.curve.bytes r) (Bytes.ofNat key.curve.bytes s))
        | none => .error .crypto
      else .error (.unsupportedCurve key.curve key.curve.bits)

def ecdsa (key : Option PrivateKey) (hash : Hash) : SigningMethod :=
  ecdsaWith (signDigest? derived) key hash

/-- Whether a signature is one of the input under the key and hash. -/
def verifies (key : PrivateKey) (hash : Hash) (input signature : Bytes) : Bool :=
  match halves? signature with
  | some (r, s) =>
    Ecdsa.verify key.curve key.publicPoint (Ecdsa.ofDigest key.curve (hash.digest input)) r s
  | none => false

end BearerAuth.Signing
