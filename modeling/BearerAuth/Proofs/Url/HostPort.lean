import BearerAuth.Url.Parse
import Mathlib.Data.List.Basic

/-!
# The text of a place

The name of a host that is read holds neither a colon nor an opening bracket, and an address of
eight groups stands between brackets (`Host.IsPlain`), whatever the scheme is, and also where the
host is that of a base (`IsRead.hasPlainHost`). So the port can be split off the text of a place
again, after the first colon outside brackets (`splitPort_hostText`), and two places have the same
text only if hosts and ports agree (`hostPort_eq_iff_of_isPlain`).
-/

namespace BearerAuth.Url

/-- Neither a colon nor an opening bracket. -/
def IsPlainChar (c : Char) : Prop :=
  c ≠ ':' ∧ c ≠ '['

instance (c : Char) : Decidable (IsPlainChar c) :=
  inferInstanceAs (Decidable (c ≠ ':' ∧ c ≠ '['))

/-- A name does not look like an address in brackets, nor as if a port followed. -/
def Host.IsPlain : Host → Prop
  | .name n => ∀ c ∈ n, IsPlainChar c
  | .empty | .ipv4 _ | .ipv6 _ => True

section Text

theorem mem_separated {separator c : Char} {parts : List (List Char)}
    (h : c ∈ separated separator parts) : c = separator ∨ ∃ part ∈ parts, c ∈ part := by
  unfold separated at h
  induction parts with
  | nil => simp at h
  | cons part parts ih =>
    rcases parts with _ | ⟨next, parts⟩
    · rw [List.intercalate_singleton] at h
      exact .inr ⟨part, List.mem_cons_self, h⟩
    · rw [List.intercalate_cons_cons] at h
      rcases List.mem_append.1 h with h | h
      · rcases List.mem_append.1 h with h | h
        · exact .inr ⟨part, List.mem_cons_self, h⟩
        · exact .inl (List.mem_singleton.1 h)
      · rcases ih h with hc | ⟨p, hp, hc⟩
        · exact .inl hc
        · exact .inr ⟨p, List.mem_cons_of_mem _ hp, hc⟩

theorem exists_digitChar_of_mem_toDigits {base : Nat} (hbase : 1 < base) {n : Nat} {c : Char}
    (h : c ∈ Nat.toDigits base n) : ∃ d, c = Nat.digitChar d := by
  induction n using Nat.strongRecOn with
  | ind n ih =>
    by_cases hn : n < base
    · rw [Nat.toDigits_of_lt_base hn, List.mem_singleton] at h
      exact ⟨n, h⟩
    · have hle : base ≤ n := Nat.not_lt.1 hn
      rw [Nat.toDigits_of_base_le hbase hle, List.mem_append, List.mem_singleton] at h
      rcases h with h | h
      · exact ih (n / base) (Nat.div_lt_self (by omega) hbase) h
      · exact ⟨_, h⟩

theorem Ipv4.isPlainChar_of_mem_text (a : Ipv4) : ∀ c ∈ a.text, IsPlainChar c := by
  intro c hc
  rcases mem_separated hc with rfl | ⟨part, hpart, hc⟩
  · decide
  obtain ⟨place, -, rfl⟩ := List.mem_map.1 hpart
  obtain ⟨d, rfl⟩ := exists_digitChar_of_mem_toDigits (by decide) hc
  exact ⟨Nat.digitChar_ne ':' (by decide), Nat.digitChar_ne '[' (by decide)⟩

theorem Ipv6.not_mem_groupsText (groups : List Nat) : ']' ∉ groupsText groups := by
  intro hc
  rcases mem_separated hc with hc | ⟨part, hpart, hc⟩
  · cases hc
  obtain ⟨group, -, rfl⟩ := List.mem_map.1 hpart
  obtain ⟨d, hd⟩ := exists_digitChar_of_mem_toDigits (by decide) hc
  exact Nat.digitChar_ne ']' (by decide) hd.symm

theorem Ipv6.not_mem_text (a : Ipv6) : ']' ∉ a.text := by
  simp only [text]
  split_ifs
  · exact not_mem_groupsText _
  · simp [not_mem_groupsText]

end Text

section Split

variable {l : List Char}

theorem splitPort_append (h : ∀ c ∈ l, IsPlainChar c) (rest : List Char) :
    splitPort false (l ++ rest) = (l ++ (splitPort false rest).1, (splitPort false rest).2) := by
  induction l with
  | nil => rfl
  | cons c l ih =>
    obtain ⟨hcolon, hbracket⟩ := h c List.mem_cons_self
    have hl := ih fun c hc => h c (List.mem_cons_of_mem _ hc)
    simp [splitPort, hcolon, hbracket, hl]

/-- Colons between brackets part nothing. -/
theorem splitPort_bracketed (h : ']' ∉ l) (rest : List Char) :
    splitPort true (l ++ ']' :: rest)
      = (l ++ ']' :: (splitPort false rest).1, (splitPort false rest).2) := by
  induction l with
  | nil => simp [splitPort]
  | cons c l ih =>
    rw [List.mem_cons, not_or] at h
    have hclosing : c ≠ ']' := Ne.symm h.1
    simp [splitPort, hclosing, ih h.2]

theorem splitPort_portText (port : Option Nat) :
    splitPort false (portText port) = ([], port.map (Nat.toDigits 10)) := by
  cases port <;> rfl

/-- What was put together from a host and a port comes apart into them. -/
theorem splitPort_hostText {host : Host} (h : host.IsPlain) (port : Option Nat) :
    splitPort false (host.text ++ portText port) = (host.text, port.map (Nat.toDigits 10)) := by
  have hopen : ∀ text : List Char, (∀ c ∈ text, IsPlainChar c) →
      splitPort false (text ++ portText port) = (text, port.map (Nat.toDigits 10)) := by
    intro text htext
    rw [splitPort_append htext, splitPort_portText, List.append_nil]
  cases host with
  | empty => exact splitPort_portText port
  | name n => exact hopen n h
  | ipv4 a => exact hopen a.text a.isPlainChar_of_mem_text
  | ipv6 a =>
    have hinside := splitPort_bracketed a.not_mem_text (portText port)
    rw [splitPort_portText] at hinside
    simp [Host.text, splitPort, hinside]

theorem toDigits_injective : Function.Injective (Nat.toDigits 10) := by
  intro m n h
  rw [← Nat.ofDigitChars_ten_toDigits (n := m), h, Nat.ofDigitChars_ten_toDigits]

theorem hostPort_eq_iff_of_isPlain {u v : Url} (hu : u.host.IsPlain) (hv : v.host.IsPlain) :
    u.hostPort = v.hostPort ↔
      u.host.text = v.host.text ∧ u.effectivePort = v.effectivePort := by
  constructor
  · intro h
    have hsplit := congrArg (splitPort false) (String.ofList_injective h)
    rw [splitPort_hostText hu, splitPort_hostText hv, Prod.mk.injEq] at hsplit
    exact ⟨hsplit.1, Option.map_injective toDigits_injective hsplit.2⟩
  · rintro ⟨hhost, hport⟩
    simp only [hostPort, hhost, hport]

end Split

section Readers

variable {α β : Type}

/-- What a reader gives, if it gives anything, has the property. -/
def Gives (x : Except Error α) (P : α → Prop) : Prop :=
  ∀ a, x = .ok a → P a

theorem gives_ok {P : α → Prop} {a : α} (h : P a) : Gives (.ok a) P := by
  rintro _ ⟨⟩
  exact h

theorem gives_error {P : α → Prop} (e : Error) : Gives (.error e) P := by
  rintro _ ⟨⟩

theorem gives_bind {P : α → Prop} {Q : β → Prop} {x : Except Error α} {f : α → Except Error β}
    (hx : Gives x P) (hf : ∀ a, P a → Gives (f a) Q) : Gives (x >>= f) Q := by
  cases x with
  | error e => exact gives_error e
  | ok a => exact hf a (hx a rfl)

theorem gives_throw {P : β → Prop} {e : Error} {f : α → Except Error β} :
    Gives (throw e >>= f) P :=
  gives_error e

theorem readBracketed_gives (text : List Char) : Gives (Host.readBracketed text) Host.IsPlain := by
  unfold Host.readBracketed
  split
  · split
    · exact gives_ok trivial
    · exact gives_error _
  · exact gives_error _

/-- Where colons and opening brackets are refused, what is not refused is plain. -/
theorem isPlainChar_of_not {refused : Char → Bool} {c : Char} (h : ¬ refused c = true)
    (hcolon : refused ':' = true) (hbracket : refused '[' = true) : IsPlainChar c := by
  constructor
  · rintro rfl
    exact h hcolon
  · rintro rfl
    exact h hbracket

theorem isPlainChar_of_mem_percentOctet {x : UInt8} {c : Char} (h : c ∈ percentOctet x) :
    IsPlainChar c := by
  have hdigit : ∀ n < 16, IsPlainChar (upperHexDigit n) := by decide
  have hx : x.toNat < 256 := x.toNat_lt
  simp only [percentOctet, List.mem_cons, List.not_mem_nil, or_false] at h
  rcases h with rfl | rfl | rfl
  · decide
  · exact hdigit _ (by omega)
  · exact hdigit _ (by omega)

/-- Encoding a name puts neither a colon nor a bracket into it. -/
theorem isPlainChar_of_mem_percentEncode {set : EncodeSet} {text : List Char}
    (h : ∀ c ∈ text, IsPlainChar c) : ∀ c ∈ percentEncode set text, IsPlainChar c := by
  intro d hd
  obtain ⟨c, hc, hd⟩ := List.mem_flatMap.1 hd
  unfold percentChar at hd
  split_ifs at hd
  · obtain ⟨x, -, hx⟩ := List.mem_flatMap.1 hd
    exact isPlainChar_of_mem_percentOctet hx
  · exact List.mem_singleton.1 hd ▸ h c hc

theorem read_gives (text : List Char) : Gives (Host.read text) Host.IsPlain := by
  unfold Host.read
  split
  · exact readBracketed_gives _
  split
  · exact gives_error _
  simp only []
  split_ifs with hforbidden
  · exact gives_error _
  · exact gives_error _
  · split
    · exact gives_ok trivial
    · exact gives_error _
  · rw [Bool.or_eq_true, not_or, List.any_eq_true, not_exists] at hforbidden
    refine gives_ok fun c hc => ?_
    exact isPlainChar_of_not (fun h => hforbidden.1 c ⟨hc, h⟩) (by decide) (by decide)

theorem readBare_gives (text : List Char) : Gives (Host.readBare text) Host.IsPlain := by
  unfold Host.readBare
  split
  · exact readBracketed_gives _
  · exact gives_ok trivial
  split_ifs with hforbidden
  · exact gives_error _
  · rw [List.any_eq_true, not_exists] at hforbidden
    refine gives_ok (isPlainChar_of_mem_percentEncode fun c hc => ?_)
    exact isPlainChar_of_not (fun h => hforbidden c ⟨hc, h⟩) (by decide) (by decide)

theorem readHost_gives (k : Kind) (text : List Char) :
    Gives (readHost k text) Host.IsPlain := by
  unfold readHost
  split_ifs
  · exact gives_error _
  · exact read_gives text
  · exact readBare_gives text

theorem readAuthority_gives (scheme text : List Char) (followed : Bool) :
    Gives (readAuthority scheme text followed) fun x => x.1.host.IsPlain := by
  unfold readAuthority
  simp only []
  split
  · exact gives_throw
  refine gives_bind (readHost_gives _ _) fun host hhost => ?_
  split
  · exact gives_throw
  refine gives_bind (P := fun _ => True) (fun _ _ => trivial) fun port _ => ?_
  split
  · exact gives_throw
  · exact gives_ok hhost

/-- A URL whose host is plain. -/
def HasPlainHost (u : Url) : Prop :=
  u.host.IsPlain

theorem readRemote_gives (scheme text : List Char) :
    Gives (readRemote scheme text) HasPlainHost := by
  unfold readRemote
  simp only []
  exact gives_bind (readAuthority_gives _ _ _) fun x hx => gives_ok hx

/-- A file whose path begins with a drive letter has no host, and otherwise it has the one given. -/
theorem hasPlainHost_ofFile {host : Host} (h : host.IsPlain) (driven : Bool) (path : List Char)
    (tail : Tail) : (ofFile (if driven then .empty else host) path tail).HasPlainHost := by
  cases driven
  · exact h
  · trivial

theorem readRemoteFile_gives (text : List Char) : Gives (readRemoteFile text) HasPlainHost := by
  unfold readRemoteFile
  simp only []
  split
  · exact gives_ok trivial
  split
  · refine gives_bind (P := Host.IsPlain) (gives_ok trivial) fun host hhost => ?_
    split
    · exact gives_ok trivial
    · exact gives_ok (hasPlainHost_ofFile hhost _ _ _)
  · refine gives_bind (read_gives _) fun host hhost => ?_
    split
    · exact gives_ok trivial
    · exact gives_ok (hasPlainHost_ofFile hhost _ _ _)

variable {base : Option Url} {b : Url} {text : List Char}

theorem hasPlainHost_fromRoot (hbase : ∀ b, base = some b → b.HasPlainHost) (text : List Char) :
    (readFile.fromRoot base text).HasPlainHost := by
  unfold readFile.fromRoot
  simp only []
  split
  · trivial
  · rename_i b hb
    split_ifs at hb ⊢
    · trivial
    · exact hbase b hb

theorem hasPlainHost_fromHere (hbase : ∀ b, base = some b → b.HasPlainHost) (text : List Char) :
    (readFile.fromHere base text).HasPlainHost := by
  unfold readFile.fromHere
  simp only []
  split
  · rename_i b _
    have hb : b.HasPlainHost := hbase b rfl
    split
    · exact hb
    · exact hb
  · rename_i b _
    have hb : b.HasPlainHost := hbase b rfl
    split
    · trivial
    · exact hb
  · trivial

theorem readFile_gives (hbase : ∀ b, base = some b → b.HasPlainHost) (text : List Char) :
    Gives (readFile base text) HasPlainHost := by
  unfold readFile
  split
  · split
    · exact readRemoteFile_gives _
    · exact gives_ok (hasPlainHost_fromRoot hbase _)
  · exact gives_ok (hasPlainHost_fromHere hbase _)

theorem hasPlainHost_inside (hb : b.HasPlainHost) (text : List Char) :
    (readRelative.inside b text).HasPlainHost := by
  unfold readRelative.inside
  simp only []
  split
  · split
    · exact hb
    · exact hb
  · split
    · exact hb
    · exact hb

theorem readRelative_gives (hb : b.HasPlainHost) (text : List Char) :
    Gives (readRelative b text) HasPlainHost := by
  unfold readRelative
  split
  · split
    · exact readRemote_gives _ _
    · exact gives_ok (hasPlainHost_inside hb _)
  · exact gives_ok (hasPlainHost_inside hb _)

theorem readOther_gives (scheme text : List Char) : Gives (readOther scheme text) HasPlainHost := by
  unfold readOther
  split
  · exact readRemote_gives _ _
  · exact gives_ok trivial
  · exact gives_ok trivial

theorem readAbsolute_gives (hbase : ∀ b, base = some b → b.HasPlainHost) (scheme text : List Char) :
    Gives (readAbsolute base scheme text) HasPlainHost := by
  unfold readAbsolute
  split
  · refine readFile_gives (fun b hb => hbase b ?_) text
    exact Option.eq_some_of_filter_eq_some hb
  · simp only []
    split
    · rename_i b
      split
      · exact readRelative_gives (hbase b rfl) _
      · exact readRemote_gives _ _
    · exact readRemote_gives _ _
  · exact readOther_gives scheme text

/-- Where the host of the base is plain, or there is no base, so is the host that is read. -/
theorem read_gives_hasPlainHost (hbase : ∀ b, base = some b → b.HasPlainHost) (text : List Char) :
    Gives (read base text) HasPlainHost := by
  unfold read
  simp only []
  split
  · exact readAbsolute_gives hbase _ _
  split
  · exact gives_error _
  · rename_i b fragment _
    have hb : b.HasPlainHost := hbase b rfl
    exact gives_ok hb
  · rename_i b _
    split
    · exact gives_error _
    split
    · exact readFile_gives hbase _
    · exact readRelative_gives (hbase b rfl) _

end Readers

/-- The URLs that can be read, on their own or relative to another one. -/
inductive IsRead : Url → Prop
  | alone {text : String} {u : Url} (h : parse text = .ok u) : IsRead u
  | joined {base u : Url} {text : String} (hbase : IsRead base) (h : base.join text = .ok u) :
    IsRead u

theorem IsRead.hasPlainHost {u : Url} (h : u.IsRead) : u.HasPlainHost := by
  induction h with
  | alone h => exact read_gives_hasPlainHost (fun _ hb => by cases hb) _ _ h
  | joined _ h ih =>
    refine read_gives_hasPlainHost (fun b hb => ?_) _ _ h
    obtain rfl := Option.some.inj hb
    exact ih

end BearerAuth.Url
