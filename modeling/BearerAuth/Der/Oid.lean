import BearerAuth.Der.Element

/-!
# Object identifiers

An identifier is kept as its octets, and two are the same if their octets are. Each arc after the
first two is a run of seven-bit groups, all but the last with the high bit set; the first octet
holds two arcs. Of an arc the lowest 32 bits are shown.
-/

namespace BearerAuth.Der

/-- The arcs after the first two. An arc of more than five groups, or whose fifth group is above
15, is refused, and so is one that is cut off. -/
def readArcs (groups : Nat) (arc : Nat) : Bytes → Option (List Nat)
  | [] => if groups = 0 then some [] else none
  | x :: rest =>
    if 4 ≤ groups ∧ 16 ≤ x then none
    else
      let arc := (arc * 128 + x.toNat % 128) % 0x100000000
      if x < 128 then (arc :: ·) <$> readArcs 0 0 rest else readArcs (groups + 1) arc rest

/-- The arcs that the octets write, if they are well formed. -/
def arcs? : Bytes → Option (List Nat)
  | [] => none
  | first :: rest =>
    if first < 120 then
      (fun later => first.toNat / 40 :: first.toNat % 40 :: later) <$> readArcs 0 0 rest
    else none

/-- An object identifier. -/
structure Oid where
  octets : Bytes
  deriving DecidableEq, Repr

namespace Oid

/-- The identifier with the given octets: three to thirty-nine of them, well formed. -/
def ofContent? (octets : Bytes) : Option Oid :=
  if 3 ≤ octets.length ∧ octets.length ≤ 39 ∧ (arcs? octets).isSome then some ⟨octets⟩ else none

/-- The arcs with points between them. -/
def dotted (o : Oid) : String :=
  ".".intercalate (((arcs? o.octets).getD []).map fun n => n.repr)

/-- The identifier that an element holds. -/
def ofElement? (e : Element) : Option Oid := do
  guard (e.tag = 0x06)
  ofContent? e.content

def read : Reader Oid := do
  ofElement? (← Reader.element)

end Oid

end BearerAuth.Der
