import BearerAuth.Json.Reader

/-!
# String literals

A literal is read after its opening quote, up to its closing one. An escape of four hexadecimal
digits writes one character below the surrogates or above them, and a pair of escapes, a high
surrogate and a low one, writes one beyond the first 65536. The octets that a literal stands for
must be well-formed UTF-8.

A literal that is passed over (`Literal.skip`) is looked at less closely: its octets and surrogates
are not checked.
-/

namespace BearerAuth.Json.Literal

open Reader

/-- What an escape of one letter stands for. -/
def simpleEscape? (x : UInt8) : Option UInt8 :=
  match x with
  | 0x22 | 0x5c | 0x2f => some x
  | 0x62 => some 0x08
  | 0x66 => some 0x0c
  | 0x6e => some 0x0a
  | 0x72 => some 0x0d
  | 0x74 => some 0x09
  | _ => none

/-- The letter of an escape with hexadecimal digits. -/
@[match_pattern]
abbrev hexMark : UInt8 := 0x75

/-- The value of four hexadecimal digits. -/
def hexValue? (digits : Bytes) : Option Nat :=
  digits.foldlM (fun n x => (n * 16 + ·) <$> Bytes.hexValue? (Char.ofNat x.toNat)) 0

/-- Four hexadecimal digits. -/
def readHex : Reader Nat :=
  ⟨fun s =>
    if s.length < 4 then .error .stringCutOff
    else match hexValue? (s.take 4) with
      | some n => .ok (n, s.drop 4)
      | none => .error .invalidEscape,
    fun {s _ _} h => by
      split at h
      · cases h
      · split at h
        · cases h
          simp
        · cases h⟩

/-- Takes off one given octet of the escape that must follow a high surrogate. -/
def readPaired (x : UInt8) : Reader Unit := do
  match ← peek with
  | none => refuse .stringCutOff
  | some y => if y = x then drop else refuse .endedHexEscape

/-- Whether a number is a high surrogate. -/
def isHigh (n : Nat) : Bool :=
  0xd800 ≤ n && n < 0xdc00

/-- Whether a number is a low surrogate. -/
def isLow (n : Nat) : Bool :=
  0xdc00 ≤ n && n < 0xe000

/-- The character of an escape with hexadecimal digits, after its letter. -/
def readCharacter : Reader Char := do
  let n ← readHex
  if isLow n then refuse .loneSurrogate
  else if isHigh n then
    readPaired Octet.backslash
    readPaired hexMark
    let m ← readHex
    if isLow m then return Char.ofNat (0x10000 + (n - 0xd800) * 0x400 + (m - 0xdc00))
    else refuse .loneSurrogate
  else return Char.ofNat n

/-- The octets of an escape, after its backslash. -/
def readEscape : Reader Bytes := do
  match ← octet with
  | none => refuse .stringCutOff
  | some hexMark => return Bytes.ofText (String.singleton (← readCharacter))
  | some x =>
    match simpleEscape? x with
    | some y => return [y]
    | none => refuse .invalidEscape

/-- Passes over an escape, after its backslash. -/
def skipEscape : Reader Bytes := do
  match ← octet with
  | none => refuse .stringCutOff
  | some hexMark =>
    let _ ← readHex
    return []
  | some x => if (simpleEscape? x).isSome then return [] else refuse .invalidEscape

/-- The octets of a literal up to its closing quote, its escapes read by `escape`. -/
def octets (escape : Reader Bytes) (s : Bytes) : Except ReadError (Bytes × Bytes) :=
  match s with
  | [] => .error .stringCutOff
  | x :: rest =>
    if x = Octet.quote then .ok ([], rest)
    else if x = Octet.backslash then
      match _h : escape.run rest with
      | .error e => .error e
      | .ok (escaped, rest) => (fun p => (escaped ++ p.1, p.2)) <$> octets escape rest
    else if x < 0x20 then .error .controlCharacter
    else (fun p => (x :: p.1, p.2)) <$> octets escape rest
termination_by s.length
decreasing_by
  · have := escape.le _h
    simp
    omega
  · simp

theorem length_octets {escape : Reader Bytes} {s a rest : Bytes}
    (h : octets escape s = .ok (a, rest)) : rest.length ≤ s.length := by
  fun_induction octets escape s generalizing a with
  | case1 => cases h
  | case2 => cases h; simp
  | case3 => cases h
  | case4 t b r hr _ ih =>
    cases hb : octets escape r with
    | error e => rw [hb] at h; cases h
    | ok p =>
      rw [hb] at h
      cases h
      have := ih hb
      have := escape.le hr
      simp
      omega
  | case5 => cases h
  | case6 x t _ _ _ ih =>
    cases hb : octets escape t with
    | error e => rw [hb] at h; cases h
    | ok p =>
      rw [hb] at h
      cases h
      have := ih hb
      simp
      omega

/-- Reads a literal, after its opening quote. -/
def read : Reader String := do
  let b ← (⟨octets readEscape, length_octets⟩ : Reader Bytes)
  match b.toText? with
  | some s => return s
  | none => refuse .invalidCodePoint

/-- Passes over a literal, after its opening quote. -/
def skip : Reader Unit := do
  let _ ← (⟨octets skipEscape, length_octets⟩ : Reader Bytes)

end BearerAuth.Json.Literal
