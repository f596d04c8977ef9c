import BearerAuth.Sha2

/-!
# Hashes for signatures

What is signed is the digest of the input under one of three hashes.
-/

namespace BearerAuth

/-- The hashes that a signature may be made over. -/
inductive Hash
  | sha256
  | sha384
  | sha512
  deriving DecidableEq, Repr

namespace Hash

def digest : Hash → Bytes → Bytes
  | sha256 => Sha2.digest Sha2.sha256
  | sha384 => Sha2.digest Sha2.sha384
  | sha512 => Sha2.digest Sha2.sha512

def identifier : Hash → String
  | sha256 => "Sha256"
  | sha384 => "Sha384"
  | sha512 => "Sha512"

end Hash

end BearerAuth
