import BearerAuth.Pem
import BearerAuth.Proofs.Base64

/-!
# Reading armour back

A document in armour is its begin line, its octets in padded base64 on lines of 64 characters, and
its end line. It is read back whichever line end is used, and whether or not the last line has one
(`Document.read?_write`).
-/

namespace BearerAuth.Pem

/-- What ends lines. -/
inductive LineEnd
  | lf
  | crlf
  | cr
  deriving DecidableEq, Repr

def LineEnd.chars : LineEnd → List Char
  | lf => ['\n']
  | crlf => ['\r', '\n']
  | cr => ['\r']

/-- The text on lines of full width, the last of which may be shorter and does not end. -/
def breakLines (e : LineEnd) (text : List Char) : List Char :=
  if text.length ≤ lineWidth then text
  else text.take lineWidth ++ (e.chars ++ breakLines e (text.drop lineWidth))
termination_by text.length
decreasing_by
  simp only [List.length_drop, lineWidth] at *
  omega

/-- A document in armour, without an end of its last line. -/
def Document.write (d : Document) (e : LineEnd) : List Char :=
  beginMark ++ (d.label.toList ++ (dashes ++ (e.chars
    ++ (breakLines e (Base64.encodePadded .standard d.body) ++ e.chars ++ endMark ++ d.label.toList
      ++ dashes))))

section Lines

variable {e : LineEnd} {text rest : List Char}

/-- Neither of the characters of line ends. -/
def isInLine (c : Char) : Prop :=
  c ≠ '\r' ∧ c ≠ '\n'

theorem afterLineEnd?_chars (h : ∀ c ∈ rest.head?, isInLine c) :
    afterLineEnd? (e.chars ++ rest) = some rest := by
  cases e with
  | lf | crlf => rfl
  | cr =>
    rcases rest with _ | ⟨c, rest⟩
    · rfl
    · obtain ⟨-, hc⟩ := h c rfl
      show afterLineEnd? ('\r' :: c :: rest) = _
      unfold afterLineEnd?
      split <;> simp_all

theorem beforeLineEnd?_of_inLine (h : ∀ c ∈ text.getLast?, isInLine c) :
    beforeLineEnd? text = none := by
  rcases List.eq_nil_or_concat text with rfl | ⟨init, c, rfl⟩
  · rfl
  · obtain ⟨hcr, hlf⟩ := h c (by simp)
    simp only [beforeLineEnd?, List.concat_eq_append, List.reverse_concat]
    split <;> simp_all

theorem beforeLineEnd?_chars (h : ∀ c ∈ text.getLast?, isInLine c) :
    beforeLineEnd? (text ++ e.chars) = some text := by
  cases e with
  | crlf | cr => simp [beforeLineEnd?, LineEnd.chars]
  | lf =>
    rcases List.eq_nil_or_concat text with rfl | ⟨init, c, rfl⟩
    · rfl
    · obtain ⟨hcr, -⟩ := h c (by simp)
      simp only [beforeLineEnd?, LineEnd.chars, List.concat_eq_append, List.reverse_concat]
      split <;> simp_all

theorem beforeSuffix?_append (ending text : List Char) :
    beforeSuffix? ending (text ++ ending) = some text := by
  have hsuffix : ending.isSuffixOf (text ++ ending) := by
    rw [List.isSuffixOf_iff_suffix]
    exact List.suffix_append text ending
  rw [beforeSuffix?, if_pos hsuffix, List.length_append, Nat.add_sub_cancel, List.take_left]

theorem head?_breakLines (e : LineEnd) (text : List Char) :
    (breakLines e text).head? = text.head? := by
  unfold breakLines
  split
  · rfl
  · rcases text with _ | ⟨c, text⟩
    · simp_all
    · rfl

/-- Lines are joined to what was broken into them. -/
theorem joinLines_breakLines (e : LineEnd) {text : List Char} (h : ∀ c ∈ text, isInLine c) :
    joinLines (breakLines e text) = some text := by
  induction text using breakLines.induct with
  | case1 text hshort =>
    have hlast : beforeLineEnd? text = none :=
      beforeLineEnd?_of_inLine fun c hc => h c (List.mem_of_getLast? hc)
    rw [breakLines, if_pos hshort, joinLines, if_pos hshort, hlast]
    rfl
  | case2 text hlong ih =>
    have hwidth : (text.take lineWidth).length = lineWidth :=
      List.length_take_of_le (Nat.le_of_lt (Nat.lt_of_not_le hlong))
    have hdrop : ∀ c ∈ text.drop lineWidth, isInLine c := fun c hc => h c (List.mem_of_mem_drop hc)
    have hafter : afterLineEnd? (e.chars ++ breakLines e (text.drop lineWidth))
        = some (breakLines e (text.drop lineWidth)) := by
      refine afterLineEnd?_chars fun c hc => hdrop c ?_
      rw [head?_breakLines] at hc
      exact List.mem_of_mem_head? hc
    have hchars : 0 < e.chars.length := by cases e <;> decide
    have hfar : ¬ (text.take lineWidth ++ (e.chars ++ breakLines e (text.drop lineWidth))).length
        ≤ lineWidth := by
      rw [List.length_append, List.length_append, hwidth]
      omega
    rw [breakLines, if_neg hlong, joinLines, if_neg hfar, List.drop_left' hwidth,
      List.take_left' hwidth]
    split
    · rename_i hnone
      rw [hafter] at hnone
      cases hnone
    · rename_i rest hrest
      rw [hafter] at hrest
      obtain rfl := Option.some.inj hrest
      rw [ih hdrop]
      exact congrArg some (List.take_append_drop lineWidth text)

end Lines

theorem isPrefixOf_append (start rest : List Char) : start.isPrefixOf (start ++ rest) = true := by
  rw [List.isPrefixOf_iff_prefix]
  exact List.prefix_append start rest

theorem skipPreamble_beginMark (rest : List Char) :
    skipPreamble (beginMark ++ rest) = some (beginMark ++ rest) := by
  rw [skipPreamble, if_pos (isPrefixOf_append beginMark rest)]

/-- A label ends at the first hyphen. -/
theorem splitLabel_append {label : List Char} (rest : List Char) : ∀ {afterBlank : Bool},
    splitLabel afterBlank label = some (label, []) →
      splitLabel afterBlank (label ++ '-' :: rest) = some (label, '-' :: rest) := by
  induction label with
  | nil =>
    intro afterBlank _
    rfl
  | cons c label ih =>
    intro afterBlank h
    rw [List.cons_append]
    unfold splitLabel at h ⊢
    split_ifs at h ⊢
    · cases h
    · obtain ⟨⟨word, later⟩, hword, heq⟩ := Option.map_eq_some_iff.1 h
      cases heq
      rw [ih hword]
      rfl
    · obtain ⟨⟨word, later⟩, hword, heq⟩ := Option.map_eq_some_iff.1 h
      cases heq
      rw [ih hword]
      rfl

theorem isInLine_of_mem_encodePadded {b : Bytes} {c : Char}
    (h : c ∈ Base64.encodePadded .standard b) : isInLine c := by
  rcases List.mem_append.1 h with h | h
  · constructor <;> rintro rfl <;> exact Base64.not_mem_encode .standard (by decide) b h
  · rw [List.eq_of_mem_replicate h]
    exact ⟨by decide, by decide⟩

theorem encodePadded_ne_nil {b : Bytes} (h : b ≠ []) : Base64.encodePadded .standard b ≠ [] := by
  intro hnil
  have hb := Base64.decodePadded_encodePadded .standard b
  rw [hnil] at hb
  exact h (Option.some.inj hb).symm

theorem getLast?_breakLines (e : LineEnd) (text : List Char) :
    (breakLines e text).getLast? = text.getLast? := by
  induction text using breakLines.induct with
  | case1 text hshort => rw [breakLines, if_pos hshort]
  | case2 text hlong ih =>
    have hsome : text.getLast?.isSome := by
      rcases text with _ | ⟨c, text⟩
      · exact absurd (Nat.zero_le _) hlong
      · rfl
    rw [breakLines, if_neg hlong, List.getLast?_append, List.getLast?_append, ih,
      List.getLast?_drop, if_neg hlong, Option.or_assoc, Option.or_of_isSome hsome]

section Symbols

variable {symbols : List Char} (e : LineEnd)

theorem afterLineEnd?_breakLines (hnil : symbols ≠ []) (h : ∀ c ∈ symbols, isInLine c)
    (rest : List Char) : afterLineEnd? (e.chars ++ (breakLines e symbols ++ rest))
      = some (breakLines e symbols ++ rest) := by
  refine afterLineEnd?_chars fun c hc => h c (List.mem_of_mem_head? ?_)
  have hsome : symbols.head?.isSome := by rwa [List.isSome_head?, ne_eq]
  rwa [List.head?_append, head?_breakLines, Option.or_of_isSome hsome] at hc

theorem beforeLineEnd?_breakLines (h : ∀ c ∈ symbols, isInLine c) :
    beforeLineEnd? (breakLines e symbols ++ e.chars) = some (breakLines e symbols) := by
  refine beforeLineEnd?_chars fun c hc => h c (List.mem_of_getLast? ?_)
  rwa [getLast?_breakLines] at hc

end Symbols

/-- Of a text that ends in hyphens, the end of the last line is dropped. -/
theorem getD_beforeLineEnd?_dashes {e : LineEnd} {last : List Char}
    (hlast : last = [] ∨ last = e.chars) (text : List Char) :
    (beforeLineEnd? (text ++ dashes ++ last)).getD (text ++ dashes ++ last) = text ++ dashes := by
  have hdash : ∀ c ∈ (text ++ dashes).getLast?, isInLine c := by
    intro c hc
    rw [List.getLast?_append] at hc
    obtain rfl : '-' = c := Option.some.inj hc
    exact ⟨by decide, by decide⟩
  rcases hlast with rfl | rfl
  · rw [List.append_nil, beforeLineEnd?_of_inLine hdash]
    rfl
  · rw [beforeLineEnd?_chars hdash]
    rfl

/-- A document with a label of words is read back. -/
theorem Document.read?_write {d : Document} (e : LineEnd) {last : List Char}
    (hlabel : splitLabel true d.label.toList = some (d.label.toList, [])) (hbody : d.body ≠ [])
    (hlast : last = [] ∨ last = e.chars) : read? (d.write e ++ last) = some d := by
  have hdecode := Base64.decodePadded_encodePadded .standard d.body
  have hinline := fun c => @isInLine_of_mem_encodePadded d.body c
  have hnil := encodePadded_ne_nil hbody
  unfold Document.write
  generalize Base64.encodePadded .standard d.body = symbols at hdecode hinline hnil ⊢
  have hguard : (!symbols.isEmpty) = true := by simpa using hnil
  have hsplit : ∀ rest, splitLabel true (d.label.toList ++ (dashes ++ rest))
      = some (d.label.toList, dashes ++ rest) := fun rest => splitLabel_append _ hlabel
  -- what stands after the first line, from its end on
  have hend := getD_beforeLineEnd?_dashes hlast
    (breakLines e symbols ++ e.chars ++ endMark ++ d.label.toList)
  have hdashes := beforeSuffix?_append dashes
    (breakLines e symbols ++ e.chars ++ endMark ++ d.label.toList)
  have hwords := beforeSuffix?_append d.label.toList (breakLines e symbols ++ e.chars ++ endMark)
  have hmark := beforeSuffix?_append endMark (breakLines e symbols ++ e.chars)
  simp only [List.append_assoc] at hend hdashes hwords hmark
  simp only [read?, List.append_assoc, skipPreamble_beginMark, Option.bind_eq_bind,
    Option.bind_some, List.drop_left, hsplit, isPrefixOf_append,
    afterLineEnd?_breakLines e hnil hinline, hend, hdashes, hwords, hmark,
    beforeLineEnd?_breakLines e hinline, joinLines_breakLines e hinline, hguard, hdecode, guard,
    if_true, String.ofList_toList]
  rfl

end BearerAuth.Pem
