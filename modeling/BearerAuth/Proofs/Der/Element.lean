import BearerAuth.Der.Oid
import Mathlib.Algebra.Ring.Nat
import Mathlib.Data.Option.Basic

/-!
# Reading what was written

An element whose tag is recognised and whose content is not too long is read back from its octets,
whatever follows them (`Element.read_write`). The readers of fields do the same, each for the
elements that it looks for.
-/

namespace BearerAuth.Der

theorem toNat_minimalBytes (n : Nat) : Bytes.toNat (minimalBytes n) = n := by
  induction n using minimalBytes.induct with
  | case1 =>
    rw [minimalBytes, if_pos rfl]
    rfl
  | case2 n hn ih =>
    rw [minimalBytes, if_neg hn, Bytes.toNat_append_singleton, ih, UInt8.toNat_ofNat']
    omega

theorem length_minimalBytes_le : ∀ {width n : Nat}, n < 256 ^ width →
    (minimalBytes n).length ≤ width
  | 0, n, h => by
    rw [minimalBytes, if_pos (Nat.lt_one_iff.1 h)]
    exact Nat.le_refl _
  | width + 1, n, h => by
    unfold minimalBytes
    split
    · exact Nat.zero_le _
    · have hlt : n / 256 < 256 ^ width := Nat.div_lt_of_lt_mul (by rwa [← Nat.pow_succ'])
      rw [List.length_append, List.length_singleton]
      exact Nat.succ_le_succ (length_minimalBytes_le hlt)

theorem readLength_writeLength {n : Nat} (h : n < lengthLimit) (rest : Bytes) :
    readLength (writeLength n ++ rest) = some (n, rest) := by
  by_cases hshort : n < 128
  · have hnat : (UInt8.ofNat n).toNat = n :=
      UInt8.toNat_ofNat_of_lt' (Nat.lt_trans hshort (by decide))
    have hlt : UInt8.ofNat n < 128 := by
      rw [UInt8.lt_iff_toNat_lt, hnat]
      exact hshort
    rw [writeLength, if_pos hshort, List.singleton_append, readLength, if_pos hlt, hnat]
  · have hlength : (minimalBytes n).length ≤ 4 :=
      length_minimalBytes_le (Nat.lt_trans h (by decide))
    have hfirst : (UInt8.ofNat (128 + (minimalBytes n).length)).toNat
        = 128 + (minimalBytes n).length :=
      UInt8.toNat_ofNat_of_lt' (Nat.lt_of_le_of_lt (Nat.add_le_add_left hlength 128) (by decide))
    have hwrite : writeLength n
        = UInt8.ofNat (128 + (minimalBytes n).length) :: minimalBytes n := if_neg hshort
    have hlong : ¬ UInt8.ofNat (128 + (minimalBytes n).length) < 128 := by
      rw [UInt8.lt_iff_toNat_lt, hfirst]
      exact Nat.not_lt.2 (Nat.le_add_right 128 _)
    rw [hwrite, List.cons_append, readLength, if_neg hlong]
    simp only [hfirst, Nat.add_sub_cancel_left, List.take_left, List.drop_left, toNat_minimalBytes]
    exact if_pos ⟨hlength, h, hwrite⟩

/-- An element that can be written so that it is read back. -/
structure Element.Fits (e : Element) : Prop where
  tag : isTag e.tag = true
  length : e.content.length < lengthLimit

theorem Element.read_write {e : Element} (h : e.Fits) (rest : Bytes) :
    Element.read (e.write ++ rest) = some (e, rest) := by
  have hlength := readLength_writeLength h.length (e.content ++ rest)
  have henough : e.content.length ≤ (e.content ++ rest).length := by
    rw [List.length_append]
    exact Nat.le_add_right _ _
  rw [write, List.cons_append, List.append_assoc, read, guard, if_pos h.tag, hlength]
  show ((guard (e.content.length ≤ (e.content ++ rest).length) : Option Unit) >>= fun _ => _) = _
  rw [guard, if_pos henough, List.take_left, List.drop_left]
  rfl

theorem Element.length_content_lt (e : Element) : e.content.length < e.write.length := by
  rw [write, List.length_cons, List.length_append]
  omega

theorem length_writeLength_le {n : Nat} (h : n < lengthLimit) : (writeLength n).length ≤ 5 := by
  unfold writeLength
  split
  · exact Nat.le_add_left 1 4
  · exact Nat.succ_le_succ (length_minimalBytes_le (Nat.lt_trans h (by decide)))

theorem Element.length_write_le {e : Element} {n : Nat} (h : e.content.length ≤ n)
    (hn : n < lengthLimit) : e.write.length ≤ n + 6 := by
  have hlength := length_writeLength_le (Nat.lt_of_le_of_lt h hn)
  rw [write, List.length_cons, List.length_append]
  omega

namespace Reader

variable {α : Type} {r : Reader α} {tag : UInt8} {content : Bytes}

theorem all_eq_some {b : Bytes} {x : α} (h : r b = some (x, [])) : r.all b = some x := by
  rw [all, h]
  rfl

theorem bind_eq {β : Type} {f : α → Reader β} {b rest : Bytes} {x : α} (h : r b = some (x, rest)) :
    (r >>= f) b = f x rest := by
  show (r b).bind (fun p => f p.1 p.2) = _
  rw [h]
  rfl

theorem guard_eq {p : Prop} [Decidable p] (h : p) (b : Bytes) :
    (guard p : Reader Unit) b = some ((), b) := by
  rw [guard, if_pos h]
  rfl

theorem contentOf_write (h : Element.Fits ⟨tag, content⟩) (rest : Bytes) :
    contentOf tag (Element.write ⟨tag, content⟩ ++ rest) = some (content, rest) := by
  rw [contentOf, bind_eq (r := element) (Element.read_write h rest), bind_eq (guard_eq rfl _)]
  rfl

theorem contentOf_write_end (h : Element.Fits ⟨tag, content⟩) :
    contentOf tag (Element.write ⟨tag, content⟩) = some (content, []) := by
  have hcontent := contentOf_write h []
  rwa [List.append_nil] at hcontent

theorem within_write (h : Element.Fits ⟨tag, content⟩) {x : α} (hr : r content = some (x, []))
    (rest : Bytes) : within tag r (Element.write ⟨tag, content⟩ ++ rest) = some (x, rest) := by
  rw [within, bind_eq (contentOf_write h rest), all_eq_some hr]
  rfl

theorem within_write_end (h : Element.Fits ⟨tag, content⟩) {x : α}
    (hr : r content = some (x, [])) :
    within tag r (Element.write ⟨tag, content⟩) = some (x, []) := by
  have hwithin := within_write h hr []
  rwa [List.append_nil] at hwithin

theorem smallNumber_write {x : UInt8} (hx : x < 128) (rest : Bytes) :
    smallNumber (Element.write ⟨0x02, [x]⟩ ++ rest) = some (x.toNat, rest) := by
  have h : Element.Fits ⟨0x02, [x]⟩ := ⟨rfl, show 1 < lengthLimit by decide⟩
  rw [smallNumber, bind_eq (contentOf_write h rest)]
  simp only [if_pos hx]
  rfl

theorem oid_write {o : Oid} (h : Oid.ofContent? o.octets = some o) (rest : Bytes) :
    Oid.read (Element.write ⟨0x06, o.octets⟩ ++ rest) = some (o, rest) := by
  have hlength : o.octets.length ≤ 39 := by
    unfold Oid.ofContent? at h
    split at h
    · rename_i hshape
      exact hshape.2.1
    · cases h
  have hfits : Element.Fits ⟨0x06, o.octets⟩ :=
    ⟨rfl, Nat.lt_of_le_of_lt hlength (by decide)⟩
  have helement : Oid.ofElement? ⟨0x06, o.octets⟩ = some o := by
    rw [Oid.ofElement?, guard, if_pos rfl]
    exact h
  rw [Oid.read, bind_eq (r := element) (Element.read_write hfits rest), helement]
  rfl

section Field

variable {number : UInt8} {b rest : Bytes}

/-- At the end there is no field. -/
theorem fieldOf_nil (number : UInt8) (r : Reader α) : fieldOf number r [] = some (none, []) := rfl

theorem fieldOf_cons (htag : isTag tag = true) :
    fieldOf number r (tag :: b) = (if tag / 64 ≠ 2 ∨ number < tag % 32 then pure none
      else if tag % 32 = number then some <$> r
      else element >>= fun _ => field number r (b.length + 1)) (tag :: b) := by
  have hget : (get : Reader Bytes) (tag :: b) = some (tag :: b, tag :: b) := rfl
  have hpeek : peek (tag :: b) = some (some tag, tag :: b) := rfl
  rw [fieldOf, bind_eq hget, List.length_cons, field, bind_eq hpeek]
  exact bind_eq (guard_eq htag _)

/-- A field is not there if one of a higher number comes. -/
theorem fieldOf_of_lt (htag : isTag tag = true) (hnumber : number < tag % 32) :
    fieldOf number r (tag :: b) = some (none, tag :: b) := by
  rw [fieldOf_cons htag, if_pos (.inr hnumber)]
  rfl

theorem fieldOf_of_eq {x : α} (htag : isTag tag = true) (hclass : tag / 64 = 2)
    (hnumber : tag % 32 = number) (hr : r (tag :: b) = some (x, rest)) :
    fieldOf number r (tag :: b) = some (some x, rest) := by
  have hhere : ¬(tag / 64 ≠ 2 ∨ number < tag % 32) := by
    rintro (h | h)
    · exact h hclass
    · exact absurd (hnumber ▸ h) (UInt8.lt_irrefl _)
  rw [fieldOf_cons htag, if_neg hhere, if_pos hnumber, map_eq_pure_bind, bind_eq hr]
  rfl

end Field

end Reader

end BearerAuth.Der
