import BearerAuth.Error
import BearerAuth.Signing.Hash

/-!
# Signers

A signer answers an input with a signature or an error, and may change its state at every call,
also at one that fails. A signing method says what the answer to the call of a given number is; a
station runs a method, counts the calls and can be put out of order.
-/

namespace BearerAuth

/-- Produces raw signatures over whole inputs. -/
structure Signer (σ : Type) where
  sign : Bytes → σ → Except SigningError Bytes × σ

/-- The answer to an input at the call of a given number, counted from one. -/
abbrev SigningMethod := Nat → Bytes → Except SigningError Bytes

namespace SigningMethod

/-- Always the same signature. -/
def constant (signature : Bytes) : SigningMethod :=
  fun _ _ => .ok signature

/-- The input itself. -/
def echo : SigningMethod :=
  fun _ input => .ok input

def digest (hash : Hash) : SigningMethod :=
  fun _ input => .ok (hash.digest input)

/-- The number of the call, in decimal. -/
def counter : SigningMethod :=
  fun n _ => .ok (Bytes.ofText n.repr)

/-- Always the same error. -/
def failing (e : SigningError) : SigningMethod :=
  fun _ _ => .error e

end SigningMethod

/-- The state of a signer that counts its calls. -/
structure SigningStation where
  calls : Nat := 0
  /-- The message with which every call fails, while there is one. -/
  fault : Option String := none
  deriving DecidableEq, Repr

/-- Runs a method, unless there is a fault; a call counts in either case. -/
def SigningMethod.toSigner (m : SigningMethod) : Signer SigningStation :=
  ⟨fun input station =>
    let calls := station.calls + 1
    let answer := match station.fault with
      | some message => .error (.other message)
      | none => m calls input
    (answer, { station with calls })⟩

end BearerAuth
