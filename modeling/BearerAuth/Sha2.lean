import BearerAuth.Bytes

/-!
# The SHA-2 digests

One schedule serves words of 32 and of 64 bits; a `Variant` fixes the word width, the rotations,
the number of rounds, the start value and how much of the last state is shown. The constants are
the first bits of the fractional parts of square and cube roots of the first primes, and are
computed as such (`rootFraction`).
-/

namespace BearerAuth.Sha2

/-- The greatest `r` with `r ^ k ≤ n`, given that it is below `2 ^ bits`: bits are tried from the
highest down. -/
def floorRoot (k n : Nat) : (bits : Nat) → (acc : Nat) → Nat
  | 0, acc => acc
  | bits + 1, acc =>
    let next := acc + Nat.pow 2 bits
    floorRoot k n bits (if Nat.pow next k ≤ n then next else acc)

/-- The first `w` bits of the fractional part of the `k`-th root of `p`. -/
def rootFraction (k w p : Nat) : BitVec w :=
  BitVec.ofNat w (floorRoot k (p * Nat.pow 2 (k * w)) (w + 5) 0)

/-- The first eighty primes. -/
def primes : List Nat :=
  (List.range 410).filter fun n => 2 ≤ n && (List.range n).all fun d => d < 2 || n % d != 0

/-- Amounts of the four mixing functions: two rotations and a rotation or shift each. -/
structure Rotations where
  /-- For the first working variable. -/
  sum0 : Nat × Nat × Nat
  /-- For the fifth working variable. -/
  sum1 : Nat × Nat × Nat
  /-- For the schedule, last amount shifted. -/
  mix0 : Nat × Nat × Nat
  /-- For the schedule, last amount shifted. -/
  mix1 : Nat × Nat × Nat

/-- What distinguishes one digest of the family from another. -/
structure Variant where
  /-- Word width in bits; a block holds sixteen words. -/
  width : Nat
  /-- Rotation amounts. -/
  rotations : Rotations
  /-- One constant for each round. -/
  constants : List (BitVec width)
  /-- The state before the first block. -/
  start : List (BitVec width)
  /-- How many octets of the last state are shown. -/
  shown : Nat

section

variable {w : Nat}

/-- Three rotations, added without carry. -/
def rotateSum (r : Nat × Nat × Nat) (x : BitVec w) : BitVec w :=
  x.rotateRight r.1 ^^^ x.rotateRight r.2.1 ^^^ x.rotateRight r.2.2

/-- Two rotations and a shift, added without carry. -/
def rotateShift (r : Nat × Nat × Nat) (x : BitVec w) : BitVec w :=
  x.rotateRight r.1 ^^^ x.rotateRight r.2.1 ^^^ x >>> r.2.2

/-- The words of the schedule after the sixteen in `window`, latest first. -/
def extend (r : Rotations) : (count : Nat) → (window : List (BitVec w)) → List (BitVec w)
  | 0, window => window
  | count + 1, window =>
    let ago (i : Nat) := window.getD (i - 1) 0
    extend r count
      ((rotateShift r.mix1 (ago 2) + ago 7 + rotateShift r.mix0 (ago 15) + ago 16) :: window)

/-- The eight working variables. -/
structure State (w : Nat) where
  (a b c d e f g h : BitVec w)

/-- One round with its constant and schedule word. -/
def round (r : Rotations) (s : State w) (kw : BitVec w × BitVec w) : State w :=
  let choose := (s.e &&& s.f) ^^^ (~~~s.e &&& s.g)
  let majority := (s.a &&& s.b) ^^^ (s.a &&& s.c) ^^^ (s.b &&& s.c)
  let t1 := s.h + rotateSum r.sum1 s.e + choose + kw.1 + kw.2
  let t2 := rotateSum r.sum0 s.a + majority
  ⟨t1 + t2, s.a, s.b, s.c, s.d + t1, s.e, s.f, s.g⟩

/-- Takes one block of words into the state. -/
def compress (r : Rotations) (constants : List (BitVec w)) (s : State w)
    (block : List (BitVec w)) : State w :=
  let schedule := (extend r (constants.length - 16) block.reverse).reverse
  let t := (constants.zip schedule).foldl (round r) s
  ⟨s.a + t.a, s.b + t.b, s.c + t.c, s.d + t.d, s.e + t.e, s.f + t.f, s.g + t.g, s.h + t.h⟩

/-- The state whose words are the first eight of a list. -/
def State.ofList (l : List (BitVec w)) : State w :=
  ⟨l.getD 0 0, l.getD 1 0, l.getD 2 0, l.getD 3 0, l.getD 4 0, l.getD 5 0, l.getD 6 0, l.getD 7 0⟩

/-- The words of a state in order. -/
def State.toList (s : State w) : List (BitVec w) :=
  [s.a, s.b, s.c, s.d, s.e, s.f, s.g, s.h]

end

/-- Cuts a list into pieces of `n + 1`, the last one perhaps shorter. -/
def pieces {α : Type} (n : Nat) : List α → List (List α)
  | [] => []
  | x :: xs => (x :: xs.take n) :: pieces n (xs.drop n)
termination_by l => l.length
decreasing_by
  rw [List.length_drop, List.length_cons]
  omega

/-- The message followed by a one bit, zeros, and its length in bits in two words, up to a whole
number of blocks. -/
def pad (wordBytes : Nat) (message : Bytes) : Bytes :=
  let block := 16 * wordBytes
  let used := message.length + 1 + 2 * wordBytes
  message ++ 0x80 :: List.replicate ((block - used % block) % block) 0
    ++ Bytes.ofNat (2 * wordBytes) (8 * message.length)

def digest (v : Variant) (message : Bytes) : Bytes :=
  let wordBytes := v.width / 8
  let words := (pieces (wordBytes - 1) (pad wordBytes message)).map fun b =>
    BitVec.ofNat v.width (Bytes.toNat b)
  let last := (pieces 15 words).foldl (compress v.rotations v.constants) (State.ofList v.start)
  (last.toList.flatMap fun x => Bytes.ofNat wordBytes x.toNat).take v.shown

/-- Rotations on 32-bit words. -/
def rotations32 : Rotations :=
  ⟨(2, 13, 22), (6, 11, 25), (7, 18, 3), (17, 19, 10)⟩

/-- Rotations on 64-bit words. -/
def rotations64 : Rotations :=
  ⟨(28, 34, 39), (14, 18, 41), (1, 8, 7), (19, 61, 6)⟩

/-- Round constants of the 64-bit digests. -/
def constants64 : List (BitVec 64) :=
  primes.map (rootFraction 3 64)

/-- SHA-256. -/
def sha256 : Variant where
  width := 32
  rotations := rotations32
  constants := (primes.take 64).map (rootFraction 3 32)
  start := (primes.take 8).map (rootFraction 2 32)
  shown := 32

/-- SHA-384. -/
def sha384 : Variant where
  width := 64
  rotations := rotations64
  constants := constants64
  start := ((primes.drop 8).take 8).map (rootFraction 2 64)
  shown := 48

/-- SHA-512. -/
def sha512 : Variant where
  width := 64
  rotations := rotations64
  constants := constants64
  start := (primes.take 8).map (rootFraction 2 64)
  shown := 64

end BearerAuth.Sha2
