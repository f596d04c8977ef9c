import BearerAuth.Proofs.Der.Exact
import BearerAuth.Proofs.Key.Document

/-!
# Which octets are private keys

The outer structure of a private key is read from octets that have a certain form, and from no
others (`Info.read?_eq_some_iff`): version, algorithm and body, and a trailer, which holds a public
key in version one and only then. So it is with the body of an elliptic-curve key
(`EcBody.read?_eq_some_iff`) and with the key that a body holds (`EcBody.key?_eq_some_iff`).
-/

namespace BearerAuth.Key

open Der Reader

variable {b rest : Bytes}

/-- What may follow the body of a key: fields that are passed over, the public key, and fields of
one element each. -/
structure Trailer where
  passed : List Element
  publicKey : Option Bytes
  extensions : List Element

namespace Trailer

def afterPassed (t : Trailer) : Bytes :=
  (t.publicKey.elim [] fun bits => Element.write ⟨0x81, 0 :: bits⟩)
    ++ t.extensions.flatMap Element.write

def write (t : Trailer) : Bytes :=
  t.passed.flatMap Element.write ++ t.afterPassed

/-- The version of a key with this trailer. -/
def version (t : Trailer) : UInt8 :=
  if t.publicKey.isSome then 1 else 0

theorem version_le (t : Trailer) : t.version.toNat ≤ 1 := by
  unfold version
  split <;> decide

theorem eq_version_iff {t : Trailer} {x : UInt8} (hx : x.toNat ≤ 1) :
    x = t.version ↔ (x.toNat == 1) = t.publicKey.isSome := by
  have hcases : x = 0 ∨ x = 1 := by
    rcases Nat.le_one_iff_eq_zero_or_eq_one.1 hx with h | h
    · exact .inl (UInt8.toNat_inj.1 h)
    · exact .inr (UInt8.toNat_inj.1 h)
  unfold version
  rcases hcases with rfl | rfl <;> cases t.publicKey.isSome <;> decide

/-- Without a public key, no field stands where it would have to be. -/
structure IsValid (t : Trailer) : Prop where
  passed : ∀ e ∈ t.passed, IsPassed 1 e
  publicKey : ∀ bits ∈ t.publicKey, Element.Fits ⟨0x81, 0 :: bits⟩
  extensions : ∀ e ∈ t.extensions, IsExtension e
  absent : t.publicKey = none → ∀ e ∈ t.extensions.head?, 1 < e.tag % 32

end Trailer

namespace Info

/-- The fields of the outer structure with a trailer. -/
def fieldsWith (i : Info) (t : Trailer) : Bytes :=
  Element.write ⟨0x02, [t.version]⟩ ++ (Element.write ⟨0x30, i.algorithmFields⟩
    ++ (Element.write ⟨0x04, i.body⟩ ++ t.write))

/-- Whether all that is written with a trailer can be read. -/
structure FitsWith (i : Info) (t : Trailer) : Prop where
  trailer : t.IsValid
  oid : Oid.ofContent? i.algorithm.octets = some i.algorithm
  parameters : ∀ p ∈ i.parameters, p.Fits
  algorithm : Element.Fits ⟨0x30, i.algorithmFields⟩
  body : Element.Fits ⟨0x04, i.body⟩

/-- The octets are a private key with the algorithm, the parameters and the body that are given. -/
def Encodes (i : Info) (b : Bytes) : Prop :=
  ∃ t, i.FitsWith t ∧ Element.Fits ⟨0x30, i.fieldsWith t⟩
    ∧ b = Element.write ⟨0x30, i.fieldsWith t⟩

end Info

theorem isContext_of_isExtension {e : Element} (h : IsExtension e) : e.tag / 64 = 2 := by
  have hcontext := congrArg UInt8.toNat h.isContext
  refine UInt8.toNat_inj.1 ?_
  simp only [UInt8.toNat_div, UInt8.reduceToNat] at hcontext ⊢
  omega

theorem head?_flatMap_write (es : List Element) :
    (es.flatMap Element.write).head? = es.head?.map Element.tag := by
  cases es <;> rfl

theorem readBits_eq_some_iff {tag : UInt8} {bits : Bytes} :
    (do wholeBits (← contentOf tag) : Reader Bytes) b = some (bits, rest) ↔
      Element.Fits ⟨tag, 0 :: bits⟩ ∧ b = Element.write ⟨tag, 0 :: bits⟩ ++ rest := by
  constructor
  · intro h
    obtain ⟨content, later, hcontent, h⟩ := bind_eq_some_iff.1 h
    obtain ⟨hbits, rfl⟩ := lift_eq_some_iff.1 h
    obtain rfl := wholeBits_eq_some_iff.1 hbits
    exact contentOf_eq_some_iff.1 hcontent
  · rintro ⟨hfits, rfl⟩
    rw [bind_eq (contentOf_write hfits rest)]
    rfl

theorem Trailer.ends_iff {t : Trailer} (h : ∀ e ∈ t.extensions, IsExtension e) {later : Bytes} :
    FieldEnds 1 (do wholeBits (← contentOf 0x81)) later t.publicKey
        (t.extensions.flatMap Element.write) ↔
      (∀ bits ∈ t.publicKey, Element.Fits ⟨0x81, 0 :: bits⟩)
        ∧ (t.publicKey = none → ∀ e ∈ t.extensions.head?, 1 < e.tag % 32)
        ∧ later = t.afterPassed := by
  obtain ⟨passed, publicKey, extensions⟩ := t
  simp only [afterPassed] at h ⊢
  constructor
  · intro hends
    cases hends with
    | absent hhead =>
      refine ⟨by simp, fun _ e he => ?_, rfl⟩
      have hcontext := isContext_of_isExtension (h e (List.mem_of_mem_head? he))
      obtain ⟨-, hlater⟩ := hhead e.tag (by rw [head?_flatMap_write, he]; rfl)
      exact hlater.resolve_left fun hne => hne hcontext
    | present htag htag' hclass hnumber hr =>
      obtain ⟨hfits, rfl⟩ := readBits_eq_some_iff.1 hr
      refine ⟨fun bits hbits => ?_, by simp, rfl⟩
      cases hbits
      exact hfits
  · rintro ⟨hfits, hhead, rfl⟩
    rcases publicKey with _ | bits
    · refine .absent fun tag htag => ?_
      rw [Option.elim_none, List.nil_append, head?_flatMap_write] at htag
      obtain ⟨e, he, rfl⟩ := Option.map_eq_some_iff.1 htag
      exact ⟨(h e (List.mem_of_mem_head? he)).fits.tag, .inr (hhead rfl e he)⟩
    · exact .present (show _ = some 0x81 from rfl) (by decide) (by decide) (by decide)
        (readBits_eq_some_iff.2 ⟨hfits bits rfl, rfl⟩)

theorem readTrailer_eq_some_iff {β : Type} {n : Nat} {x y : β} : (do
      let publicKey ← fieldOf 1 do wholeBits (← contentOf 0x81)
      guard ((n == 1) == publicKey.isSome)
      remainingFields ((← get).length + 1)
      return x : Reader β) b = some (y, rest) ↔
    x = y ∧ rest = [] ∧ ∃ t : Trailer, t.IsValid ∧ (n == 1) = t.publicKey.isSome
      ∧ b = t.write := by
  have hget : ∀ b : Bytes, (get : Reader Bytes) b = some (b, b) := fun _ => rfl
  constructor
  · intro hread
    obtain ⟨publicKey, b₁, hpublicKey, h₁⟩ := bind_eq_some_iff.1 hread
    obtain ⟨_, b₂, hguard, h₂⟩ := bind_eq_some_iff.1 h₁
    obtain ⟨hversion, rfl⟩ := guard_eq_some_iff.1 hguard
    rw [bind_eq (hget b₁)] at h₂
    obtain ⟨_, b₃, hremaining, h₃⟩ := bind_eq_some_iff.1 h₂
    obtain ⟨rfl, rfl⟩ := pure_eq_some_iff.1 h₃
    obtain ⟨rfl, extensions, rfl, hextensions⟩ := remainingFields_eq_some_iff.1 hremaining
    obtain ⟨passed, later, rfl, hpassed, hends⟩ := fieldOf_eq_some_iff.1 hpublicKey
    obtain ⟨hfits, habsent, rfl⟩ :=
      (Trailer.ends_iff (t := ⟨passed, publicKey, extensions⟩) hextensions).1 hends
    exact ⟨rfl, rfl, ⟨passed, publicKey, extensions⟩, ⟨hpassed, hfits, hextensions, habsent⟩,
      beq_iff_eq.1 hversion, rfl⟩
  · rintro ⟨rfl, rfl, t, ht, hversion, rfl⟩
    have hends := (Trailer.ends_iff ht.extensions).2 ⟨ht.publicKey, ht.absent, rfl⟩
    rw [Trailer.write, bind_eq (fieldOf_eq_some_iff.2 ⟨_, _, rfl, ht.passed, hends⟩),
      bind_eq (guard_eq (beq_iff_eq.2 hversion) _), bind_eq (hget _),
      bind_eq (remainingFields_eq_some_iff (u := ()).2 ⟨rfl, _, rfl, ht.extensions⟩)]
    rfl

namespace Info

theorem readAlgorithm_eq_some_iff {algorithm : Oid} {parameters : Option Element} :
    readAlgorithm b = some ((algorithm, parameters), []) ↔
      Oid.ofContent? algorithm.octets = some algorithm ∧ (∀ p ∈ parameters, p.Fits)
        ∧ b = Element.write ⟨0x06, algorithm.octets⟩ ++ parameters.elim [] Element.write := by
  constructor
  · intro hread
    obtain ⟨o, later, hoid, hnext⟩ := bind_eq_some_iff.1 hread
    obtain ⟨ho, rfl⟩ := oid_eq_some_iff.1 hoid
    obtain ⟨next, later', hpeek, h⟩ := bind_eq_some_iff.1 hnext
    obtain ⟨rfl, rfl⟩ := peek_eq_some_iff.1 hpeek
    rcases later with _ | ⟨tag, later⟩
    · obtain ⟨heq, -⟩ := pure_eq_some_iff.1 h
      cases heq
      exact ⟨ho, by simp, rfl⟩
    · obtain ⟨e, last, he, h⟩ := bind_eq_some_iff.1 h
      obtain ⟨heq, rfl⟩ := pure_eq_some_iff.1 h
      cases heq
      obtain ⟨hfits, he⟩ := Element.read_eq_some_iff.1 he
      refine ⟨ho, fun p hp => ?_, ?_⟩
      · cases hp
        exact hfits
      · rw [he, List.append_nil]
        rfl
  · rintro ⟨ho, hparameters, rfl⟩
    rw [readAlgorithm, bind_eq (oid_write ho _)]
    rcases parameters with _ | p
    · rfl
    · have helement := Element.read_write (hparameters p rfl) []
      obtain ⟨w, hw⟩ := p.exists_write_eq_cons []
      rw [hw] at helement
      rw [Option.elim_some, ← List.append_nil p.write, hw, bind_eq (peek_cons p.tag w)]
      simp only
      rw [bind_eq (r := element) helement]
      rfl

theorem readFields_eq_some_iff {i : Info} :
    readFields b = some (i, []) ↔ ∃ t, i.FitsWith t ∧ b = i.fieldsWith t := by
  constructor
  · intro hread
    obtain ⟨version, b₁, hversion, h₁⟩ := bind_eq_some_iff.1 hread
    obtain ⟨_, b₂, hguard, h₂⟩ := bind_eq_some_iff.1 h₁
    obtain ⟨⟨algorithm, parameters⟩, b₃, halgorithm, h₃⟩ := bind_eq_some_iff.1 h₂
    obtain ⟨body, b₄, hbody, h₄⟩ := bind_eq_some_iff.1 h₃
    obtain ⟨rfl, -, t, ht, hpublic, rfl⟩ := readTrailer_eq_some_iff.1 h₄
    obtain ⟨x, rfl, rfl⟩ := smallNumber_eq_some_iff.1 hversion
    obtain ⟨hle, rfl⟩ := guard_eq_some_iff.1 hguard
    obtain ⟨content, halgorithmFits, rfl, hcontent⟩ := within_eq_some_iff.1 halgorithm
    obtain ⟨hoid, hparameters, rfl⟩ := readAlgorithm_eq_some_iff.1 hcontent
    obtain ⟨hbodyFits, rfl⟩ := contentOf_eq_some_iff.1 hbody
    refine ⟨t, ⟨ht, hoid, hparameters, halgorithmFits, hbodyFits⟩, ?_⟩
    obtain rfl := (Trailer.eq_version_iff hle).2 hpublic
    have hsmall : t.version < 128 := UInt8.lt_iff_toNat_lt.2 (Nat.lt_of_le_of_lt hle (by decide))
    rw [fieldsWith, if_pos hsmall]
    rfl
  · rintro ⟨t, ⟨ht, hoid, hparameters, halgorithm, hbody⟩, rfl⟩
    have hle := t.version_le
    have hsmall : t.version < 128 := UInt8.lt_iff_toNat_lt.2 (Nat.lt_of_le_of_lt hle (by decide))
    have hfields : readAlgorithm i.algorithmFields = some ((i.algorithm, i.parameters), []) :=
      readAlgorithm_eq_some_iff.2 ⟨hoid, hparameters, rfl⟩
    rw [readFields, fieldsWith, bind_eq (smallNumber_write hsmall _), bind_eq (guard_eq hle _),
      bind_eq (within_write halgorithm hfields _)]
    simp only
    rw [bind_eq (contentOf_write hbody _)]
    exact readTrailer_eq_some_iff.2
      ⟨rfl, rfl, t, ht, (Trailer.eq_version_iff hle).1 rfl, rfl⟩

theorem read?_eq_some_iff {i : Info} : read? b = some i ↔ i.Encodes b := by
  rw [read?, all_within_eq_some_iff]
  constructor
  · rintro ⟨content, hfits, rfl, hfields⟩
    obtain ⟨t, ht, rfl⟩ := readFields_eq_some_iff.1 hfields
    exact ⟨t, ht, hfits, rfl⟩
  · rintro ⟨t, ht, hfits, rfl⟩
    exact ⟨_, hfits, rfl, readFields_eq_some_iff.2 ⟨t, ht, rfl⟩⟩

end Info

namespace EcBody

def curveField (curve : Option Oid) : Bytes :=
  curve.elim [] fun o => Element.write ⟨0xa0, Element.write ⟨0x06, o.octets⟩⟩

def pointField (point : Option Bytes) : Bytes :=
  point.elim [] fun q => Element.write ⟨0xa1, Element.write ⟨0x03, 0 :: q⟩⟩

/-- The fields of a key body in which a curve may be named, with fields that are passed over. -/
def fieldsWith (e : EcBody) (curve : Option Oid) (passed : List Element) : Bytes :=
  Element.write ⟨0x02, [1]⟩ ++ (Element.write ⟨0x04, e.scalar⟩ ++ (curveField curve
    ++ (passed.flatMap Element.write ++ pointField e.publicPoint)))

/-- Whether all that is written can be read. After a curve that is missing, nothing is passed
over. -/
structure FitsWith (e : EcBody) (curve : Option Oid) (passed : List Element) : Prop where
  scalar : Element.Fits ⟨0x04, e.scalar⟩
  curve_fits : ∀ o ∈ curve, Oid.ofContent? o.octets = some o
    ∧ Element.Fits ⟨0xa0, Element.write ⟨0x06, o.octets⟩⟩
  isPassed : ∀ e ∈ passed, IsPassed 1 e
  missing : curve = none → passed = []
  point : ∀ q ∈ e.publicPoint, Element.Fits ⟨0x03, 0 :: q⟩
    ∧ Element.Fits ⟨0xa1, Element.write ⟨0x03, 0 :: q⟩⟩

/-- The octets are the body of an elliptic-curve key with the scalar and the point that are
given. -/
def Encodes (e : EcBody) (b : Bytes) : Prop :=
  ∃ curve passed, e.FitsWith curve passed ∧ Element.Fits ⟨0x30, e.fieldsWith curve passed⟩
    ∧ b = Element.write ⟨0x30, e.fieldsWith curve passed⟩

theorem curve_ends_iff {found : Option Oid} :
    FieldEnds 0 (within 0xa0 Oid.read) b found rest ↔
      (∀ o ∈ found, Oid.ofContent? o.octets = some o
          ∧ Element.Fits ⟨0xa0, Element.write ⟨0x06, o.octets⟩⟩)
        ∧ (found = none →
          ∀ tag ∈ rest.head?, isTag tag = true ∧ (tag / 64 ≠ 2 ∨ 0 < tag % 32))
        ∧ b = curveField found ++ rest := by
  constructor
  · intro hends
    cases hends with
    | absent hhead => exact ⟨by simp, fun _ => hhead, rfl⟩
    | @present tag o _ htag htag' hclass hnumber hr =>
      obtain ⟨content, hfits, rfl, hoid⟩ := within_eq_some_iff.1 hr
      obtain ⟨ho, rfl⟩ := oid_eq_some_iff.1 hoid
      rw [List.append_nil] at hfits ⊢
      refine ⟨fun o' ho' => ?_, by simp, rfl⟩
      cases ho'
      exact ⟨ho, hfits⟩
  · rintro ⟨hfits, hhead, rfl⟩
    rcases found with _ | o
    · exact .absent (hhead rfl)
    · obtain ⟨ho, hfits⟩ := hfits o rfl
      refine .present (show _ = some 0xa0 from rfl) (by decide) (by decide) (by decide) ?_
      refine within_eq_some_iff.2 ⟨_, hfits, rfl, ?_⟩
      exact oid_eq_some_iff.2 ⟨ho, (List.append_nil _).symm⟩

theorem point_ends_iff {found : Option Bytes} :
    FieldEnds 1 (within 0xa1 do wholeBits (← contentOf 0x03)) b found [] ↔
      (∀ q ∈ found, Element.Fits ⟨0x03, 0 :: q⟩
          ∧ Element.Fits ⟨0xa1, Element.write ⟨0x03, 0 :: q⟩⟩)
        ∧ b = pointField found := by
  constructor
  · intro hends
    cases hends with
    | absent hhead => exact ⟨by simp, rfl⟩
    | @present tag q _ htag htag' hclass hnumber hr =>
      obtain ⟨content, hfits, rfl, hbits⟩ := within_eq_some_iff.1 hr
      obtain ⟨hinner, rfl⟩ := readBits_eq_some_iff.1 hbits
      simp only [List.append_nil] at hfits ⊢
      refine ⟨fun q' hq' => ?_, rfl⟩
      cases hq'
      exact ⟨hinner, hfits⟩
  · rintro ⟨hfits, rfl⟩
    rcases found with _ | q
    · exact .absent (by simp [pointField])
    · obtain ⟨hinner, houter⟩ := hfits q rfl
      refine .present (show _ = some 0xa1 from rfl) (by decide) (by decide) (by decide) ?_
      refine within_eq_some_iff.2 ⟨_, houter, (List.append_nil _).symm, ?_⟩
      exact readBits_eq_some_iff.2 ⟨hinner, (List.append_nil _).symm⟩

theorem not_isPassed_zero {e : Element} (h : IsPassed 0 e) : False :=
  Nat.not_lt_zero _ (UInt8.lt_iff_toNat_lt.1 h.number_lt)

/-- A field that is passed over on the way to the point has the number of the curve. -/
theorem number_eq_zero_of_isPassed {e : Element} (h : IsPassed 1 e) : e.tag % 32 = 0 := by
  have hlt := UInt8.lt_iff_toNat_lt.1 h.number_lt
  exact UInt8.toNat_inj.1 (Nat.lt_one_iff.1 hlt)

theorem FitsWith.curve_ends {e : EcBody} {curve : Option Oid} {passed : List Element}
    (h : e.FitsWith curve passed) : FieldEnds 0 (within 0xa0 Oid.read)
      (curveField curve ++ (passed.flatMap Element.write ++ pointField e.publicPoint)) curve
      (passed.flatMap Element.write ++ pointField e.publicPoint) := by
  refine curve_ends_iff.2 ⟨h.curve_fits, fun hcurve tag htag => ?_, rfl⟩
  rw [h.missing hcurve] at htag
  rcases hpoint : e.publicPoint with _ | q
  · rw [hpoint] at htag
    cases htag
  · rw [hpoint] at htag
    obtain rfl : 0xa1 = tag := Option.some.inj htag
    decide

theorem readFields_eq_some_iff {e : EcBody} :
    readFields b = some (e, []) ↔ ∃ curve passed, e.FitsWith curve passed
      ∧ b = e.fieldsWith curve passed := by
  constructor
  · intro hread
    obtain ⟨version, b₁, hversion, h₁⟩ := bind_eq_some_iff.1 hread
    obtain ⟨_, b₂, hguard, h₂⟩ := bind_eq_some_iff.1 h₁
    obtain ⟨scalar, b₃, hscalar, h₃⟩ := bind_eq_some_iff.1 h₂
    obtain ⟨curve, b₄, hcurve, h₄⟩ := bind_eq_some_iff.1 h₃
    obtain ⟨point, b₅, hpoint, h₅⟩ := bind_eq_some_iff.1 h₄
    obtain ⟨rfl, rfl⟩ := pure_eq_some_iff.1 h₅
    obtain ⟨none', later, rfl, hnone, hcurveEnds⟩ := fieldOf_eq_some_iff.1 hcurve
    obtain rfl : none' = [] := List.eq_nil_iff_forall_not_mem.2 fun e he =>
      not_isPassed_zero (hnone e he)
    obtain ⟨passed, last, rfl, hpassed, hpointEnds⟩ := fieldOf_eq_some_iff.1 hpoint
    obtain ⟨hcurveFits, hmissing, rfl⟩ := curve_ends_iff.1 hcurveEnds
    obtain ⟨hpointFits, rfl⟩ := point_ends_iff.1 hpointEnds
    obtain ⟨hscalarFits, rfl⟩ := contentOf_eq_some_iff.1 hscalar
    obtain ⟨rfl, rfl⟩ := guard_eq_some_iff.1 hguard
    obtain ⟨x, hx, rfl⟩ := smallNumber_eq_some_iff.1 hversion
    obtain rfl : x = 1 := UInt8.toNat_inj.1 hx
    refine ⟨curve, passed, ⟨hscalarFits, hcurveFits, hpassed, fun hnot => ?_, hpointFits⟩, rfl⟩
    rcases passed with _ | ⟨p, passed⟩
    · rfl
    · -- the search for a curve would have read this field
      have hp := hpassed p List.mem_cons_self
      obtain ⟨-, hclass | hnumber⟩ := hmissing hnot p.tag rfl
      · exact absurd hp.isContext hclass
      · rw [number_eq_zero_of_isPassed hp] at hnumber
        exact absurd hnumber (UInt8.lt_irrefl 0)
  · rintro ⟨curve, passed, h, rfl⟩
    have hcurve : fieldOf 0 (within 0xa0 Oid.read)
        (curveField curve ++ (passed.flatMap Element.write ++ pointField e.publicPoint))
          = some (curve, passed.flatMap Element.write ++ pointField e.publicPoint) :=
      fieldOf_eq_some_iff.2 ⟨[], _, rfl, by simp, h.curve_ends⟩
    have hpoint : fieldOf 1 (within 0xa1 do wholeBits (← contentOf 0x03))
        (passed.flatMap Element.write ++ pointField e.publicPoint) = some (e.publicPoint, []) :=
      fieldOf_eq_some_iff.2 ⟨passed, _, rfl, h.isPassed, point_ends_iff.2 ⟨h.point, rfl⟩⟩
    rw [readFields, fieldsWith, bind_eq (smallNumber_write (x := 1) (by decide) _),
      bind_eq (guard_eq (by decide) _), bind_eq (contentOf_write h.scalar _), bind_eq hcurve,
      bind_eq hpoint]
    rfl

theorem read?_eq_some_iff {e : EcBody} : read? b = some e ↔ e.Encodes b := by
  rw [read?, all_within_eq_some_iff]
  constructor
  · rintro ⟨content, hfits, rfl, hfields⟩
    obtain ⟨curve, passed, h, rfl⟩ := readFields_eq_some_iff.1 hfields
    exact ⟨curve, passed, h, hfits, rfl⟩
  · rintro ⟨curve, passed, h, hfits, rfl⟩
    exact ⟨_, hfits, rfl, readFields_eq_some_iff.2 ⟨curve, passed, h, rfl⟩⟩

/-- The body is one of the key: its scalar is that of the key and neither too short nor wider than
the curve, and a public point is that of the key, in either form. -/
structure Holds (e : EcBody) (key : PrivateKey) : Prop where
  scalar : Bytes.toNat e.scalar = key.scalar
  length_ge : 24 ≤ e.scalar.length
  length_le : e.scalar.length ≤ key.curve.bytes
  point : ∀ q ∈ e.publicPoint, q = key.publicBytes ∨ q = key.publicPoint.compressed key.curve

theorem ofScalar?_eq_some_iff {curve : Curve} {scalar : Nat} {key : PrivateKey} :
    PrivateKey.ofScalar? curve scalar = some key ↔ key.curve = curve ∧ scalar = key.scalar := by
  unfold PrivateKey.ofScalar?
  constructor
  · intro h
    split at h
    · cases h
      exact ⟨rfl, rfl⟩
    · cases h
  · rintro ⟨rfl, rfl⟩
    exact dif_pos ⟨key.scalar_pos, key.scalar_lt⟩

theorem key?_eq_some_iff {e : EcBody} {curve : Curve} {key : PrivateKey} :
    e.key? curve = some key ↔ key.curve = curve ∧ e.Holds key := by
  obtain ⟨scalar, point⟩ := e
  simp only [key?, Option.bind_eq_bind, Option.bind_eq_some_iff, Option.guard_eq_some',
    ofScalar?_eq_some_iff]
  constructor
  · rintro ⟨-, ⟨hge, hle⟩, key', ⟨rfl, hscalar⟩, h⟩
    rcases point with _ | q
    · cases h
      exact ⟨rfl, hscalar, hge, hle, by simp⟩
    · obtain ⟨u, hguard, h⟩ := Option.bind_eq_some_iff.1 h
      cases h
      refine ⟨rfl, hscalar, hge, hle, fun q' hq => ?_⟩
      obtain rfl := Option.some.inj hq
      exact (Option.guard_eq_some' u).1 hguard
  · rintro ⟨rfl, hscalar, hge, hle, hpoint⟩
    refine ⟨(), ⟨hge, hle⟩, key, ⟨rfl, hscalar⟩, ?_⟩
    rcases point with _ | q
    · rfl
    · exact Option.bind_eq_some_iff.2 ⟨(), (Option.guard_eq_some' ()).2 (hpoint q rfl), rfl⟩

end EcBody

end BearerAuth.Key
