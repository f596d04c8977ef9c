import BearerAuth.Json.Skip

/-!
# Records

A record is read from an object, whose members may come in any order (`members`), or from a list
that holds its fields in their order (`element`). A field that the record has is read at most once
(`field`), and any other member is passed over (`unknownMember`).
-/

namespace BearerAuth.Json

open Reader

variable {α σ : Type}

/-- Passes over the comma between members. -/
def readMemberComma : Reader Unit := do
  match ← symbol with
  | some Octet.comma => return ()
  | _ => refuse .expectedObjectSeparator

/-- Reads a key up to its closing quote. -/
def readKeyLiteral : Reader String := do
  match ← symbol with
  | none => refuse .valueCutOff
  | some Octet.quote => Literal.read
  | some Octet.closeObject => refuse .trailingComma
  | some _ => refuse .keyNotString

/-- Reads the key of a member, after the comma that stands before all but the first. -/
def readKey : (first : Bool) → Reader String
  | true => readKeyLiteral
  | false => do
    readMemberComma
    readKeyLiteral

theorem consumes_readKey (first : Bool) : (readKey first).Consumes := by
  have h : readKeyLiteral.Consumes := consumes_symbol_bind rfl
  cases first
  · exact consumes_bind_right readMemberComma fun _ => h
  · exact h

/-- Reads members up to the closing bracket. The reader of a member gets what was gathered from the
members before it and the key, and stands before the colon. -/
def membersFrom (member : σ → String → Reader σ) (first : Bool) (gathered : σ) (s : Bytes) :
    Except ReadError (σ × Bytes) :=
  match _h : next.run s with
  | .error e => .error e
  | .ok (none, _) => .error .objectCutOff
  | .ok (some x, rest) =>
    if x = Octet.closeObject then .ok (gathered, rest.tail)
    else
      match _h' : (readKey first >>= member gathered).run rest with
      | .error e => .error e
      | .ok (gathered, rest) => membersFrom member false gathered rest
termination_by s.length
decreasing_by
  exact Nat.lt_of_lt_of_le (consumes_bind_left (consumes_readKey first) _ _ _ _ _h') (next.le _h)

theorem length_membersFrom {member : σ → String → Reader σ} {first : Bool} {a b : σ}
    {s rest : Bytes} (h : membersFrom member first a s = .ok (b, rest)) :
    rest.length ≤ s.length := by
  fun_induction membersFrom member first a s with
  | case1 => cases h
  | case2 => cases h
  | case3 _ _ _ _ hr =>
    cases h
    obtain ⟨t, rfl, ht⟩ := next_some hr
    exact Nat.le_of_lt ht
  | case4 => cases h
  | case5 _ _ _ _ _ hr _ _ _ hm ih =>
    exact Nat.le_trans (ih h) (Nat.le_trans (Reader.le _ hm) (next.le hr))

/-- Reads the members of an object whose bracket has been opened. -/
def members (member : σ → String → Reader σ) (start : σ) : Reader σ :=
  ⟨membersFrom member true start, length_membersFrom⟩

/-- Reads the field of a record from a member, unless it was read before. -/
def field (name : String) (seen : Option α) (r : Reader α) : Reader (Option α) := do
  if seen.isSome then refuse (.duplicateField name)
  readColon
  return some (← r)

/-- Passes over a member that the record does not have. -/
def unknownMember : Reader Unit := do
  readColon
  skipValue

/-- A field that has to be there. -/
def required (name : String) (seen : Option α) : Reader α :=
  match seen with
  | none => refuse (.missingField name)
  | some a => pure a

/-- Reads the next value of a list, if it has one. -/
def element (first : Bool) (r : Reader α) : Reader (Option α) := do
  match ← next with
  | none => refuse .listCutOff
  | some Octet.closeList => return none
  | some x =>
    if !first then
      if x = Octet.comma then drop else refuse .expectedListSeparator
      match ← next with
      | none => refuse .valueCutOff
      | some Octet.closeList => refuse .trailingComma
      | some _ => pure ()
    return some (← r)

/-- Closes a list of which all values were read that can be. -/
def endList : Reader Unit := do
  match ← symbol with
  | none => refuse .listCutOff
  | some Octet.closeList => return ()
  | some Octet.comma =>
    if (← next) = some Octet.closeList then refuse .trailingComma else refuse .trailingCharacters
  | some _ => refuse .trailingCharacters

/-- Reads a record from either form. -/
def record (wanted : String) (fromList fromObject : Reader α) : Reader α := do
  match ← symbol with
  | none => refuse .valueCutOff
  | some Octet.openList =>
    let a ← fromList
    endList
    return a
  | some Octet.openObject => fromObject
  | some x => refuseFound x wanted

/-- Reads an object as pairs in the order of their last occurrence, the keys all different. -/
def readPairs (r : Reader α) : Reader (List (String × α)) := do
  match ← symbol with
  | none => refuse .valueCutOff
  | some Octet.openObject =>
    members (fun pairs key => do
      readColon
      let a ← r
      return pairs.filter (·.1 ≠ key) ++ [(key, a)]) []
  | some x => refuseFound x "a map"

end BearerAuth.Json
