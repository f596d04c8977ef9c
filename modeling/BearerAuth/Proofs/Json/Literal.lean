import BearerAuth.Json.Record
import BearerAuth.Json.Value
import BearerAuth.Proofs.Bytes
import Mathlib.Tactic.SplitIfs

/-!
# Written strings read back

The written form of an octet reads as that octet (`octets_escaped`): a quote, a backslash and the
controls through an escape, of which those without a letter of their own have four digits
(`readEscape_hexMark`), and every other octet as it stands. So a written string reads as itself,
whatever follows it (`readString_writeString`).
-/

namespace BearerAuth.Json

open Reader

namespace Literal

theorem octets_quote (escape : Reader Bytes) (rest : Bytes) :
    octets escape (Octet.quote :: rest) = .ok ([], rest) := by
  rw [octets, if_pos rfl]

theorem octets_backslash {escape : Reader Bytes} {s rest b : Bytes}
    (h : escape.run s = .ok (b, rest)) : octets escape (Octet.backslash :: s) =
      (fun p => (b ++ p.1, p.2)) <$> octets escape rest := by
  rw [octets, if_neg (by decide), if_pos rfl]
  split
  · rename_i e he
    rw [h] at he
    cases he
  · rename_i b' rest' hb
    rw [h] at hb
    cases hb
    rfl

theorem octets_plain {escape : Reader Bytes} {x : UInt8} (hquote : x ≠ Octet.quote)
    (hbackslash : x ≠ Octet.backslash) (hcontrol : ¬ x < 0x20) (rest : Bytes) :
    octets escape (x :: rest) = (fun p => (x :: p.1, p.2)) <$> octets escape rest := by
  rw [octets, if_neg hquote, if_neg hbackslash, if_neg hcontrol]

theorem hexValue?_control : ∀ n : Fin 32,
    hexValue? [0x30, 0x30, hexOctet (n.val / 16), hexOctet (n.val % 16)] = some n.val := by
  decide

theorem readHex_run {digits : Bytes} {n : Nat} (hlength : digits.length = 4)
    (hvalue : hexValue? digits = some n) (rest : Bytes) :
    readHex.run (digits ++ rest) = .ok (n, rest) := by
  have hlong : ¬ (digits ++ rest).length < 4 := by
    rw [List.length_append, hlength]
    omega
  have htake : (digits ++ rest).take 4 = digits := by rw [← hlength, List.take_left]
  have hdrop : (digits ++ rest).drop 4 = rest := by rw [← hlength, List.drop_left]
  simp only [readHex, if_neg hlong, htake, hdrop, hvalue]

theorem readCharacter_run {digits : Bytes} {n : Nat} (hlength : digits.length = 4)
    (hvalue : hexValue? digits = some n) (hlow : isLow n = false) (hhigh : isHigh n = false)
    (rest : Bytes) : readCharacter.run (digits ++ rest) = .ok (Char.ofNat n, rest) := by
  simp only [readCharacter, run_bind, readHex_run hlength hvalue, hlow, hhigh, Bool.false_eq_true,
    if_false, run_pure]

theorem ofText_singleton_control : ∀ n : Fin 32,
    Bytes.ofText (String.singleton (Char.ofNat n.val)) = [UInt8.ofNat n.val] := by
  decide

theorem readEscape_of_hexMark (s : Bytes) : readEscape.run (hexMark :: s) =
    (readCharacter >>= fun c => pure (Bytes.ofText (String.singleton c))).run s := rfl

/-- A control that has no letter of its own is read from its four digits. -/
theorem readEscape_hexMark {x : UInt8} (h : x < 0x20) (rest : Bytes) :
    readEscape.run (hexMark :: ([0x30, 0x30, hexOctet (x.toNat / 16), hexOctet (x.toNat % 16)]
      ++ rest)) = .ok ([x], rest) := by
  have hlt : x.toNat < 32 := h
  have hlow : isLow x.toNat = false := by simp [isLow]; omega
  have hhigh : isHigh x.toNat = false := by simp [isHigh]; omega
  have hread := readCharacter_run rfl (hexValue?_control ⟨x.toNat, hlt⟩) hlow hhigh rest
  have htext : Bytes.ofText (String.singleton (Char.ofNat x.toNat)) = [x] := by
    rw [ofText_singleton_control ⟨x.toNat, hlt⟩, UInt8.ofNat_toNat]
  rw [readEscape_of_hexMark, run_bind, hread]
  simp only [run_pure, htext]

theorem readEscape_letter {x y : UInt8} (hne : x ≠ hexMark) (h : simpleEscape? x = some y)
    (rest : Bytes) : readEscape.run (x :: rest) = .ok ([y], rest) := by
  have hoctet : octet.run (x :: rest) = .ok (some x, rest) := rfl
  simp only [readEscape, run_bind, hoctet]
  split
  · simp_all
  · rename_i heq
    simp_all
  · rename_i z _ heq
    cases heq
    simp only [h, run_pure]

theorem octets_letter {x y : UInt8} (hne : x ≠ hexMark) (h : simpleEscape? x = some y)
    (rest : Bytes) : octets readEscape (Octet.backslash :: x :: rest) =
      (fun p => (y :: p.1, p.2)) <$> octets readEscape rest := by
  rw [octets_backslash (readEscape_letter hne h rest)]
  rfl

/-- An octet is read as it was written. -/
theorem octets_escaped (x : UInt8) (rest : Bytes) : octets readEscape (escaped x ++ rest) =
    (fun p => (x :: p.1, p.2)) <$> octets readEscape rest := by
  unfold escaped
  split
  · exact octets_letter (by decide) rfl rest
  · exact octets_letter (by decide) rfl rest
  · exact octets_letter (by decide) rfl rest
  · exact octets_letter (by decide) rfl rest
  · exact octets_letter (by decide) rfl rest
  · exact octets_letter (by decide) rfl rest
  · exact octets_letter (by decide) rfl rest
  · rename_i hquote hbackslash _ _ _ _ _
    split_ifs with hcontrol
    · exact octets_backslash (readEscape_hexMark hcontrol rest)
    · exact octets_plain hquote hbackslash hcontrol rest

theorem octets_writeString (b rest : Bytes) :
    octets readEscape (b.flatMap escaped ++ Octet.quote :: rest) = .ok (b, rest) := by
  induction b with
  | nil => exact octets_quote readEscape rest
  | cons x b ih =>
    rw [List.flatMap_cons, List.append_assoc, octets_escaped, ih]
    rfl

theorem read_run (s : String) (rest : Bytes) :
    read.run ((Bytes.ofText s).flatMap escaped ++ Octet.quote :: rest) = .ok (s, rest) := by
  simp only [read, run_bind, octets_writeString, Bytes.toText?_ofText, run_pure]

end Literal

theorem writeString_append (s : String) (rest : Bytes) : writeString s ++ rest =
    Octet.quote :: ((Bytes.ofText s).flatMap escaped ++ Octet.quote :: rest) := by
  simp [writeString]

/-- What follows a written string does not matter to what is read. -/
theorem readString_writeString (s : String) (rest : Bytes) :
    readString.run (writeString s ++ rest) = .ok (s, rest) := by
  rw [writeString_append]
  exact Literal.read_run s rest

theorem readKeyLiteral_writeString (s : String) (rest : Bytes) :
    readKeyLiteral.run (writeString s ++ rest) = .ok (s, rest) := by
  rw [writeString_append]
  exact Literal.read_run s rest

end BearerAuth.Json
