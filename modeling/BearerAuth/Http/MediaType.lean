import BearerAuth.Http.Header

/-!
# Media types

A media type has a kind of content, a finer kind, and parameters after semicolons. A parameter has
a name and a value, in quotes or not; blanks may stand before the name and after the quotes.
-/

namespace BearerAuth.Http

/-- Whether a character may occur in a token. -/
def isTokenChar (c : Char) : Bool :=
  c.isAlphanum || "!#$%&'*+-.^_\x60|~".toList.contains c

/-- Whether a character may occur between quotes. -/
def isQuotedChar (c : Char) : Bool :=
  ' ' ≤ c && c ≠ '\x7f'

/-- A parameter of a media type. -/
structure Parameter where
  name : String
  value : String
  deriving DecidableEq, Repr

/-- The kind of content that a message has. -/
structure MediaType where
  kind : String
  subkind : String
  parameters : List Parameter
  deriving DecidableEq, Repr

namespace MediaType

/-- Reads what is between quotes, after the first of them. There is at least one character, which
may be a quote. -/
def readQuoted? : List Char → Option (List Char × List Char)
  | [] => none
  | c :: rest =>
    match rest.dropWhile (· ≠ '"') with
    | [] => none
    | _ :: after =>
      let value := c :: rest.takeWhile (· ≠ '"')
      if value.all isQuotedChar then some (value, after) else none

/-- Reads the value of a parameter and the semicolon after it, if more follows. -/
def readValue? : List Char → Option (List Char × List Char)
  | '"' :: rest =>
    (readQuoted? rest).bind fun (value, after) =>
      match after.dropWhile (· = ' ') with
      | [] => some (value, [])
      | c :: next => if c = ';' then some (value, next) else none
  | text =>
    let value := text.takeWhile isTokenChar
    match text.dropWhile isTokenChar with
    | [] => some (value, [])
    | c :: next => if c = ';' ∧ value ≠ [] then some (value, next) else none

/-- Reads a parameter and the semicolon after it, if more follows. -/
def readParameter? (text : List Char) : Option (Parameter × List Char) :=
  let name := text.takeWhile isTokenChar
  match text.dropWhile isTokenChar with
  | '=' :: rest =>
    if name = [] then none
    else (readValue? rest).map fun (value, next) =>
      (⟨String.ofList name, String.ofList value⟩, next)
  | _ => none

theorem length_dropWhile_le (p : Char → Bool) (text : List Char) :
    (text.dropWhile p).length ≤ text.length :=
  (List.dropWhile_suffix p).length_le

theorem length_of_readQuoted {text value after : List Char}
    (h : readQuoted? text = some (value, after)) : after.length < text.length := by
  cases text with
  | nil => simp [readQuoted?] at h
  | cons c rest =>
    have short := length_dropWhile_le (· ≠ '"') rest
    simp only [readQuoted?] at h
    split at h
    · simp at h
    · next rest' eq =>
      split at h
      · simp only [Option.some.injEq, Prod.mk.injEq] at h
        rw [eq] at short
        simp only [List.length_cons] at short ⊢
        rw [← h.2]
        omega
      · simp at h

theorem length_of_readValue {text value next : List Char}
    (h : readValue? text = some (value, next)) : next.length ≤ text.length := by
  unfold readValue? at h
  split at h
  · next rest =>
    obtain ⟨⟨v, after⟩, found, h⟩ := Option.bind_eq_some_iff.1 h
    have quoted := length_of_readQuoted found
    have short := length_dropWhile_le (· = ' ') after
    simp only at h
    split at h
    · simp only [Option.some.injEq, Prod.mk.injEq] at h
      simp [← h.2]
    · next eq =>
      rw [eq] at short
      simp only [List.length_cons] at short ⊢
      split at h
      · simp only [Option.some.injEq, Prod.mk.injEq] at h
        rw [← h.2]
        omega
      · simp at h
  · have short := length_dropWhile_le isTokenChar text
    simp only at h
    split at h
    · simp only [Option.some.injEq, Prod.mk.injEq] at h
      simp [← h.2]
    · next eq =>
      rw [eq] at short
      simp only [List.length_cons] at short
      split at h
      · simp only [Option.some.injEq, Prod.mk.injEq] at h
        rw [← h.2]
        omega
      · simp at h

theorem length_of_readParameter {text next : List Char} {p : Parameter}
    (h : readParameter? text = some (p, next)) : next.length < text.length := by
  have short := length_dropWhile_le isTokenChar text
  simp only [readParameter?] at h
  split at h
  · next rest eq =>
    rw [eq] at short
    simp only [List.length_cons] at short
    split at h
    · simp at h
    · obtain ⟨⟨v, n⟩, found, h⟩ := Option.map_eq_some_iff.1 h
      have := length_of_readValue found
      simp only [Prod.mk.injEq] at h
      rw [← h.2]
      omega
  · simp at h

/-- Reads the parameters after a semicolon. -/
def readParameters? (text : List Char) : Option (List Parameter) :=
  match text with
  | [] => some []
  | c :: rest =>
    if c = ' ' then readParameters? rest
    else
      match _found : readParameter? (c :: rest) with
      | none => none
      | some (p, next) => (readParameters? next).map (p :: ·)
termination_by text.length
decreasing_by
  · exact Nat.lt_succ_self _
  · exact length_of_readParameter _found

def ofText? (text : List Char) : Option MediaType :=
  let kind := text.takeWhile isTokenChar
  match text.dropWhile isTokenChar with
  | '/' :: rest =>
    let subkind := rest.takeWhile isTokenChar
    let parameters :=
      match rest.dropWhile isTokenChar with
      | [] => some []
      | c :: after => if c = ';' ∧ subkind ≠ [] then readParameters? after else none
    if kind = [] then none
    else parameters.map (⟨String.ofList kind, String.ofList subkind, ·⟩)
  | _ => none

/-- The label of the charset. Case is of no account in the names of parameters. -/
def charsetLabel? (m : MediaType) : Option String :=
  (m.parameters.find? fun p => p.name.map Char.toLower = "charset").map (·.value)

end MediaType

end BearerAuth.Http
