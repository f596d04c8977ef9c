import BearerAuth.Base64

/-!
# Textual armour

A document is a labelled block of octets: a begin line with the label, the octets in padded base64
on lines of 64 characters, and an end line with the same label. Text may come before the begin
line. A line ends in CR, LF or both, in any mixture, and the last line of the text need not end.
After the last line of octets one more line end may come.
-/

namespace BearerAuth.Pem

/-- A labelled block of octets. -/
structure Document where
  label : String
  body : Bytes
  deriving DecidableEq, Repr

/-- The characters that begin the first line. -/
def beginMark : List Char := "-----BEGIN ".toList

/-- The characters that begin the last line. -/
def endMark : List Char := "-----END ".toList

/-- The characters after a label. -/
def dashes : List Char := "-----".toList

/-- Characters of base64 on a full line. -/
def lineWidth : Nat := 64

/-- The text from its first begin line on. Text before it must not hold NUL. -/
def skipPreamble (text : List Char) : Option (List Char) :=
  if beginMark.isPrefixOf text then some text else afterLine text
where
  /-- Goes on to the first line that begins with the mark. -/
  afterLine : List Char → Option (List Char)
    | [] => none
    | c :: rest =>
      if c = '\x00' then none
      else if c = '\n' ∧ beginMark.isPrefixOf rest then some rest
      else afterLine rest

/-- Whether a character can be part of a word in a label. -/
def isLabelChar (c : Char) : Bool :=
  '!' ≤ c && c ≤ '~' && c != '-'

/-- Splits off a label: words with single blanks or tabs between or after them. -/
def splitLabel (afterBlank : Bool) : List Char → Option (List Char × List Char)
  | [] => some ([], [])
  | c :: rest =>
    if c = '-' then some ([], c :: rest)
    else if isLabelChar c then
      (fun (label, rest) => (c :: label, rest)) <$> splitLabel false rest
    else if (c = ' ' ∨ c = '\t') ∧ !afterBlank then
      (fun (label, rest) => (c :: label, rest)) <$> splitLabel true rest
    else none

def afterLineEnd? : List Char → Option (List Char)
  | '\r' :: '\n' :: rest => some rest
  | '\n' :: rest => some rest
  | '\r' :: rest => some rest
  | _ => none

def beforeLineEnd? (text : List Char) : Option (List Char) :=
  match text.reverse with
  | '\n' :: '\r' :: rest => some rest.reverse
  | '\n' :: rest => some rest.reverse
  | '\r' :: rest => some rest.reverse
  | _ => none

def beforeSuffix? (ending text : List Char) : Option (List Char) :=
  if ending.isSuffixOf text then some (text.take (text.length - ending.length)) else none

theorem length_afterLineEnd? {s r : List Char} (h : afterLineEnd? s = some r) :
    r.length < s.length := by
  unfold afterLineEnd? at h
  split at h <;> simp only [Option.some.injEq, reduceCtorEq] at h <;> subst h <;>
    simp only [List.length_cons] <;> omega

/-- Joins lines: each but the last has full width and then a line end, and the last may have one. -/
def joinLines (text : List Char) : Option (List Char) :=
  if text.length ≤ lineWidth then some ((beforeLineEnd? text).getD text)
  else
    match _h : afterLineEnd? (text.drop lineWidth) with
    | none => none
    | some rest => (text.take lineWidth ++ ·) <$> joinLines rest
termination_by text.length
decreasing_by
  have := length_afterLineEnd? _h
  simp at this
  omega

def Document.read? (text : List Char) : Option Document := do
  let text ← skipPreamble text
  let (label, rest) ← splitLabel true (text.drop beginMark.length)
  guard (dashes.isPrefixOf rest)
  let rest ← afterLineEnd? (rest.drop dashes.length)
  let rest := (beforeLineEnd? rest).getD rest
  let rest ← beforeSuffix? dashes rest
  let rest ← beforeSuffix? label rest
  let rest ← beforeSuffix? endMark rest
  let symbols ← joinLines (← beforeLineEnd? rest)
  guard (!symbols.isEmpty)
  let body ← Base64.decodePadded .standard symbols
  return ⟨String.ofList label, body⟩

end BearerAuth.Pem
