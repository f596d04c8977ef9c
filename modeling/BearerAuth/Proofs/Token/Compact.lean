import BearerAuth.Proofs.Base64
import BearerAuth.Token.Compact

/-!
# Compact tokens read back

A segment has no point in it, so the parts of a compact token are its segments (`parts_compact`),
and a text is read as segments exactly when it is the compact token with these segments
(`read?_eq_some_iff`). Whatever no compact token has is therefore refused (`read?_eq_none`).
-/

namespace BearerAuth.Token

theorem point_not_mem_segment (b : Bytes) : '.' ∉ segment b := by
  intro h
  have := Base64.mem_encode_url h
  revert this
  decide

namespace Segments

theorem compact_eq_intercalate (s : Segments) :
    s.compact = ['.'].intercalate [segment s.header, segment s.payload, segment s.signature] := by
  simp [compact, signingInput, List.intercalate]

theorem parts_compact (s : Segments) :
    parts s.compact = [segment s.header, segment s.payload, segment s.signature] := by
  rw [parts, compact_eq_intercalate]
  refine List.splitOn_intercalate '.' (fun part hpart => ?_) (List.cons_ne_nil _ _)
  simp only [List.mem_cons, List.not_mem_nil, or_false] at hpart
  rcases hpart with rfl | rfl | rfl <;> exact point_not_mem_segment _

theorem intercalate_parts (text : List Char) : ['.'].intercalate (parts text) = text :=
  List.intercalate_splitOn '.'

theorem read?_compact (s : Segments) : read? s.compact = some s := by
  simp [read?, parts_compact, segment, Base64.decode_encode]

theorem compact_of_read? {token : List Char} {s : Segments} (h : read? token = some s) :
    token = s.compact := by
  unfold read? at h
  split at h
  · rename_i header payload signature hparts
    simp only [bind, Option.bind_eq_some_iff, pure, Option.some.injEq] at h
    obtain ⟨header', hheader, payload', hpayload, signature', hsignature, rfl⟩ := h
    rw [compact_eq_intercalate, ← intercalate_parts token, hparts,
      (Base64.decode_eq_some_iff .url).1 hheader, (Base64.decode_eq_some_iff .url).1 hpayload,
      (Base64.decode_eq_some_iff .url).1 hsignature]
    rfl
  · cases h

theorem read?_eq_some_iff {token : List Char} {s : Segments} :
    read? token = some s ↔ token = s.compact := by
  constructor
  · exact compact_of_read?
  · rintro rfl
    exact read?_compact s

/-- A text that differs in some way from all compact tokens is refused. -/
theorem read?_eq_none {token : List Char} (h : ∀ s : Segments, token ≠ s.compact) :
    read? token = none := by
  rcases hread : read? token with _ | s
  · rfl
  · exact absurd (compact_of_read? hread) (h s)

theorem mem_compact {s : Segments} {c : Char} (h : c ∈ s.compact) :
    c.isAlphanum ∨ c = '-' ∨ c = '_' ∨ c = '.' := by
  simp only [compact, signingInput, List.mem_append, List.mem_cons] at h
  rcases h with (h | rfl | h) | rfl | h
  · have := Base64.mem_encode_url h
    tauto
  · simp
  · have := Base64.mem_encode_url h
    tauto
  · simp
  · have := Base64.mem_encode_url h
    tauto

theorem count_compact (s : Segments) : s.compact.count '.' = 2 := by
  have hnone : ∀ b, (segment b).count '.' = 0 := fun b =>
    List.count_eq_zero.2 (point_not_mem_segment b)
  simp [compact, signingInput, hnone]

theorem exists_segment_of_mem_parts {s : Segments} {part : List Char}
    (h : part ∈ parts s.compact) : ∃ b, part = segment b := by
  rw [parts_compact] at h
  simp only [List.mem_cons, List.not_mem_nil, or_false] at h
  rcases h with rfl | rfl | rfl <;> exact ⟨_, rfl⟩

/-- What reads as three segments is exactly their three base64 texts with points between them, empty
ones among them, where the base64 text of some octets is the one that spells their bits in symbols
of the alphabet for URLs. So a text is refused that has a character of no segment in it (padding, a blank, a
symbol of the standard alphabet), or not two points, or a part that is one symbol too long or whose
last symbol has spare bits that are not zero; and no two texts read as the same segments. -/
theorem read?_exact :
    (∀ (token : String) (header payload signature : Bytes),
      read? token.toList = some ⟨header, payload, signature⟩ ↔
        token = String.ofList (Base64.encode .url header) ++ "."
          ++ String.ofList (Base64.encode .url payload) ++ "."
          ++ String.ofList (Base64.encode .url signature))
    ∧ (∀ (b : Bytes) (text : List Char),
      Base64.Spells .url text b ↔ text = Base64.encode .url b)
    ∧ (List.range 64).map Base64.Alphabet.url.symbol
      = "ABCDEFGHIJKLMNOPQRSTUVWXYZabcdefghijklmnopqrstuvwxyz0123456789-_".toList
    ∧ Base64.encode .url [] = []
    ∧ (∀ token : String, (∃ c ∈ token.toList, ¬ (c.isAlphanum ∨ c = '-' ∨ c = '_' ∨ c = '.')) →
      read? token.toList = none)
    ∧ (∀ token : String, token.toList.count '.' ≠ 2 → read? token.toList = none)
    ∧ (∀ token : String, (∃ part ∈ parts token.toList, part.length % 4 = 1) →
      read? token.toList = none)
    ∧ (∀ token : String, (∃ part ∈ parts token.toList, ∃ c n, part.getLast? = some c
        ∧ Base64.Alphabet.url.value? c = some n
        ∧ (part.length % 4 = 2 ∧ n % 16 ≠ 0 ∨ part.length % 4 = 3 ∧ n % 4 ≠ 0)) →
      read? token.toList = none)
    ∧ ∀ (token token' : String) (s : Segments),
      read? token.toList = some s → read? token'.toList = some s → token = token' := by
  refine ⟨fun token header payload signature => ?_, fun b text => Base64.spells_iff .url,
    Base64.Alphabet.symbols_url, rfl, ?_, ?_, ?_, ?_, ?_⟩
  · rw [read?_eq_some_iff, ← String.toList_inj]
    simp [compact, signingInput, segment]
  · rintro token ⟨c, hc, hbad⟩
    refine read?_eq_none fun s hs => hbad ?_
    rw [hs] at hc
    exact mem_compact hc
  · intro token hcount
    refine read?_eq_none fun s hs => hcount ?_
    rw [hs, count_compact]
  · rintro token ⟨part, hpart, hlength⟩
    refine read?_eq_none fun s hs => ?_
    rw [hs] at hpart
    obtain ⟨b, rfl⟩ := exists_segment_of_mem_parts hpart
    exact Base64.length_encode_mod_ne_one .url b hlength
  · rintro token ⟨part, hpart, c, n, hlast, hvalue, hspare⟩
    refine read?_eq_none fun s hs => ?_
    rw [hs] at hpart
    obtain ⟨b, rfl⟩ := exists_segment_of_mem_parts hpart
    obtain ⟨htwo, hthree⟩ := Base64.spare_encode .url hvalue hlast
    rcases hspare with ⟨hlength, hn⟩ | ⟨hlength, hn⟩
    · exact hn (htwo hlength)
    · exact hn (hthree hlength)
  · intro token token' s h h'
    rw [← String.toList_inj, compact_of_read? h, compact_of_read? h']

end Segments

end BearerAuth.Token
