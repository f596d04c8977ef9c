import BearerAuth.Token.Compact

/-!
# Octets of texts

The octets of a text put together are those of its parts (`ofText_append`), and a text of ASCII
characters has one octet for each (`ofText_ofList_of_ascii`).
-/

namespace BearerAuth.Bytes

theorem ofText_append (s t : String) : ofText (s ++ t) = ofText s ++ ofText t := by
  simp only [ofText, String.toByteArray_append, ByteArray.data_append, Array.toList_append]

theorem utf8EncodeChar_of_ascii {c : Char} (h : c.toNat < 128) :
    String.utf8EncodeChar c = [UInt8.ofNat c.toNat] := by
  have hle : c.toNat ≤ 127 := Nat.le_of_lt_succ h
  simp [String.utf8EncodeChar, hle]

theorem ofText_ofList (text : List Char) :
    ofText (String.ofList text) = text.flatMap String.utf8EncodeChar := by
  simp [ofText, String.toByteArray_ofList, List.utf8Encode]

/-- A text of ASCII characters has one octet for each. -/
theorem ofText_ofList_of_ascii {text : List Char} (h : ∀ c ∈ text, c.toNat < 128) :
    ofText (String.ofList text) = Token.octets text := by
  rw [ofText_ofList]
  induction text with
  | nil => rfl
  | cons c text ih =>
    have hc := utf8EncodeChar_of_ascii (h c List.mem_cons_self)
    rw [List.flatMap_cons, hc, ih fun d hd => h d (List.mem_cons_of_mem c hd)]
    rfl

end BearerAuth.Bytes
