import BearerAuth.Key.Load
import BearerAuth.Proofs.Der.Element
import BearerAuth.Proofs.Pem

/-!
# Documents of private keys

A key on a curve is written as a key body (`EcBody.write`) in an outer structure (`Info.write`), and
both are read back, unless they are too long for their lengths to be written. Those of the two
curves are not (`length_around_lt`). The key that is read from its body is the one that was written,
with its public point or without one (`key?_of`).
-/

namespace BearerAuth.Key

open Der Reader

namespace EcBody

/-- The fields of a key body: version one, the scalar, and the public point if there is one. -/
def fields (e : EcBody) : Bytes :=
  Element.write ⟨0x02, [1]⟩ ++ (Element.write ⟨0x04, e.scalar⟩
    ++ e.publicPoint.elim [] fun q => Element.write ⟨0xa1, Element.write ⟨0x03, 0 :: q⟩⟩)

def write (e : EcBody) : Bytes :=
  Element.write ⟨0x30, e.fields⟩

variable {e : EcBody}

theorem readPoint_write {q : Bytes}
    (h : (Element.write ⟨0xa1, Element.write ⟨0x03, 0 :: q⟩⟩).length < lengthLimit) :
    (within 0xa1 do wholeBits (← contentOf 0x03))
      (Element.write ⟨0xa1, Element.write ⟨0x03, 0 :: q⟩⟩) = some (q, []) := by
  have houter : Element.Fits ⟨0xa1, Element.write ⟨0x03, 0 :: q⟩⟩ :=
    ⟨show isTag 0xa1 = true by decide, Nat.lt_trans (Element.length_content_lt _) h⟩
  have hinner : Element.Fits ⟨0x03, 0 :: q⟩ :=
    ⟨rfl, Nat.lt_trans (Element.length_content_lt _) houter.length⟩
  have hbits : (do wholeBits (← contentOf 0x03) : Reader Bytes) (Element.write ⟨0x03, 0 :: q⟩)
      = some (q, []) := by
    rw [bind_eq (contentOf_write_end hinner)]
    rfl
  exact within_write_end houter hbits

theorem readFields_fields (h : e.fields.length < lengthLimit) :
    readFields e.fields = some (e, []) := by
  obtain ⟨scalar, q⟩ := e
  simp only [fields, List.length_append] at h
  have hscalar : Element.Fits ⟨0x04, scalar⟩ :=
    ⟨rfl, Nat.lt_trans (Element.length_content_lt _) (by omega)⟩
  rw [readFields, fields, bind_eq (smallNumber_write (x := 1) (by decide) _),
    bind_eq (guard_eq (by decide) _), bind_eq (contentOf_write hscalar _)]
  rcases q with _ | q
  · rfl
  · have hpoint := readPoint_write (q := q) (by rw [Option.elim_some] at h; omega)
    obtain ⟨b, hb⟩ : ∃ b, Element.write ⟨0xa1, Element.write ⟨0x03, 0 :: q⟩⟩ = 0xa1 :: b :=
      ⟨_, rfl⟩
    rw [hb] at hpoint
    rw [Option.elim_some, hb, bind_eq (fieldOf_of_lt (by decide) (by decide)),
      bind_eq (fieldOf_of_eq (by decide) (by decide) (by decide) hpoint)]
    rfl

theorem read?_write (h : e.write.length < lengthLimit) : read? e.write = some e := by
  have hfits : Element.Fits ⟨0x30, e.fields⟩ :=
    ⟨rfl, Nat.lt_trans (Element.length_content_lt _) h⟩
  exact all_eq_some (within_write_end hfits (readFields_fields hfits.length))

end EcBody

namespace Info

/-- An algorithm with its parameters, if it has any. -/
def algorithmFields (i : Info) : Bytes :=
  Element.write ⟨0x06, i.algorithm.octets⟩ ++ i.parameters.elim [] Element.write

/-- The fields of the outer structure in version zero: the algorithm and the body. -/
def fields (i : Info) : Bytes :=
  Element.write ⟨0x02, [0]⟩ ++ (Element.write ⟨0x30, i.algorithmFields⟩
    ++ Element.write ⟨0x04, i.body⟩)

def write (i : Info) : Bytes :=
  Element.write ⟨0x30, i.fields⟩

/-- Whether what the structure names can be read: its identifier is well formed, and the tag of its
parameters is recognised. -/
structure IsReadable (i : Info) : Prop where
  algorithm : Oid.ofContent? i.algorithm.octets = some i.algorithm
  parameters : ∀ p ∈ i.parameters, isTag p.tag = true

variable {i : Info}

theorem readAlgorithm_algorithmFields (hi : i.IsReadable)
    (h : i.algorithmFields.length < lengthLimit) :
    readAlgorithm i.algorithmFields = some ((i.algorithm, i.parameters), []) := by
  obtain ⟨algorithm, parameters, body⟩ := i
  rw [readAlgorithm, algorithmFields, bind_eq (oid_write hi.algorithm _)]
  rcases parameters with _ | p
  · rfl
  · have hfits : Element.Fits p := by
      refine ⟨hi.parameters p rfl, Nat.lt_trans (Element.length_content_lt p) ?_⟩
      rw [algorithmFields, Option.elim_some, List.length_append] at h
      omega
    have helement : element p.write = some (p, []) := by
      rw [← List.append_nil p.write]
      exact Element.read_write hfits []
    obtain ⟨b, hb⟩ : ∃ b, Element.write p = p.tag :: b := ⟨_, rfl⟩
    have hpeek : peek (p.tag :: b) = some (some p.tag, p.tag :: b) := rfl
    rw [hb] at helement
    rw [Option.elim_some, hb, bind_eq hpeek]
    simp only
    rw [bind_eq helement]
    rfl

theorem readFields_fields (hi : i.IsReadable) (h : i.fields.length < lengthLimit) :
    readFields i.fields = some (i, []) := by
  have hfields := h
  simp only [fields, List.length_append] at hfields
  have halgorithm : Element.Fits ⟨0x30, i.algorithmFields⟩ :=
    ⟨rfl, Nat.lt_trans (Element.length_content_lt _) (by omega)⟩
  have hbody : Element.Fits ⟨0x04, i.body⟩ :=
    ⟨rfl, Nat.lt_trans (Element.length_content_lt _) (by omega)⟩
  rw [readFields, fields, bind_eq (smallNumber_write (x := 0) (by decide) _),
    bind_eq (guard_eq (by decide) _), bind_eq (within_write halgorithm
      (readAlgorithm_algorithmFields hi halgorithm.length) _)]
  simp only
  rw [bind_eq (contentOf_write_end hbody), bind_eq (fieldOf_nil 1 _),
    bind_eq (guard_eq (by decide) _)]
  rfl

theorem read?_write (hi : i.IsReadable) (h : i.write.length < lengthLimit) :
    read? i.write = some i := by
  have hfits : Element.Fits ⟨0x30, i.fields⟩ :=
    ⟨rfl, Nat.lt_trans (Element.length_content_lt _) h⟩
  exact all_eq_some (within_write_end hfits (readFields_fields hi hfits.length))

theorem length_body_lt (i : Info) : i.body.length < i.write.length := by
  have hbody : i.body.length < (Element.write ⟨0x04, i.body⟩).length :=
    Element.length_content_lt ⟨0x04, i.body⟩
  have hfields : i.fields.length < i.write.length := Element.length_content_lt ⟨0x30, i.fields⟩
  rw [fields, List.length_append, List.length_append] at hfields
  omega

end Info

/-- The outer structure around a key body on a curve. -/
def Info.around (curve : Curve) (e : EcBody) : Info :=
  ⟨ecPublicKey, some ⟨0x06, (curveOid curve).octets⟩, e.write⟩

theorem Info.isReadable_around (curve : Curve) (e : EcBody) : (around curve e).IsReadable := by
  refine ⟨show Oid.ofContent? ecPublicKey.octets = some ecPublicKey by decide, fun p hp => ?_⟩
  obtain rfl := Option.some.inj hp
  exact show isTag 0x06 = true by decide

theorem Info.curve?_around (curve : Curve) (e : EcBody) :
    (around curve e).curve? = some (curveOid curve) := by
  cases curve <;> rfl

/-- The body of a key on a curve, with a scalar and perhaps a point. -/
def EcBody.of (curve : Curve) (scalar : Nat) (q : Option Curve.Point) : EcBody :=
  ⟨Bytes.ofNat curve.bytes scalar, q.map (·.uncompressed curve)⟩

theorem length_uncompressed (curve : Curve) (p : Curve.Point) :
    (p.uncompressed curve).length = 1 + 2 * curve.bytes := by
  simp only [Curve.Point.uncompressed, List.length_cons, List.length_append, Bytes.length_ofNat]
  omega

theorem length_fields_of (curve : Curve) (scalar : Nat) (q : Option Curve.Point) :
    (EcBody.of curve scalar q).fields.length ≤ 170 := by
  have hbytes : curve.bytes ≤ 48 := by cases curve <;> decide
  have hversion : (Element.write ⟨0x02, [1]⟩).length = 3 := rfl
  have hscalar : (Element.write ⟨0x04, Bytes.ofNat curve.bytes scalar⟩).length ≤ 48 + 6 :=
    Element.length_write_le ((Bytes.length_ofNat _ _).trans_le hbytes) (by decide)
  rw [EcBody.fields, EcBody.of, List.length_append, List.length_append]
  rcases q with _ | p
  · simp only [Option.map_none, Option.elim_none, List.length_nil]
    omega
  · have hbits : (Element.write ⟨0x03, 0 :: p.uncompressed curve⟩).length ≤ 98 + 6 := by
      refine Element.length_write_le ?_ (by decide)
      rw [List.length_cons, length_uncompressed]
      omega
    have hpoint : (Element.write
        ⟨0xa1, Element.write ⟨0x03, 0 :: p.uncompressed curve⟩⟩).length ≤ 104 + 6 :=
      Element.length_write_le hbits (by decide)
    simp only [Option.map_some, Option.elim_some]
    omega

theorem length_around_lt (curve : Curve) (scalar : Nat) (q : Option Curve.Point) :
    (Info.around curve (.of curve scalar q)).write.length < lengthLimit := by
  have hversion : (Element.write ⟨0x02, [0]⟩).length = 3 := rfl
  have halgorithm : (Element.write
      ⟨0x30, (Info.around curve (.of curve scalar q)).algorithmFields⟩).length ≤ 30 := by
    cases curve <;> exact Nat.le_of_ble_eq_true rfl
  have hbody : (Info.around curve (.of curve scalar q)).body.length ≤ 170 + 6 :=
    Element.length_write_le (length_fields_of curve scalar q) (by decide)
  have hfields : (Info.around curve (.of curve scalar q)).fields.length ≤ 300 := by
    have hoctets : (Element.write
        ⟨0x04, (Info.around curve (.of curve scalar q)).body⟩).length ≤ 176 + 6 :=
      Element.length_write_le hbody (by decide)
    rw [Info.fields, List.length_append, List.length_append]
    omega
  exact Nat.lt_of_le_of_lt (Element.length_write_le hfields (by decide)) (by decide)

/-- The key of a body is read with its public point or without one. -/
theorem key?_of (key : PrivateKey) {q : Option Curve.Point} (hq : ∀ p ∈ q, p = key.publicPoint) :
    (EcBody.of key.curve key.scalar q).key? key.curve = some key := by
  have hscalar : Bytes.toNat (Bytes.ofNat key.curve.bytes key.scalar) = key.scalar := by
    rw [Bytes.toNat_ofNat, Nat.mod_eq_of_lt (Nat.lt_trans key.scalar_lt key.curve.order_lt)]
  have hkey : PrivateKey.ofScalar? key.curve key.scalar = some key :=
    dif_pos ⟨key.scalar_pos, key.scalar_lt⟩
  have hwidth : 24 ≤ (EcBody.of key.curve key.scalar q).scalar.length
      ∧ (EcBody.of key.curve key.scalar q).scalar.length ≤ key.curve.bytes := by
    rw [EcBody.of, Bytes.length_ofNat]
    cases key.curve <;> decide
  unfold EcBody.key?
  rw [guard, if_pos hwidth]
  simp only [EcBody.of, hscalar, hkey, Option.bind_eq_bind, Option.bind_some, Option.pure_def]
  rcases q with _ | p
  · rfl
  · obtain rfl := hq p rfl
    have hbytes : key.publicPoint.uncompressed key.curve = key.publicBytes := rfl
    simp only [Option.map_some, hbytes, true_or, guard]
    rfl

end BearerAuth.Key
