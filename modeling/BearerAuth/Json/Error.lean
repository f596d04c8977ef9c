import BearerAuth.Text.Quoted

/-!
# Why a text does not read

A text is refused for its form, because it ends too early, or because it holds a well-formed value
where another kind of value is wanted. The three cases are the three categories.
-/

namespace BearerAuth.Json

/-- What was found where something else was wanted. -/
inductive Found
  | null
  | boolean (value : Bool)
  | integer (value : Int)
  /-- A number that is no integer of 64 bits, as it is written out. -/
  | floating (written : String)
  | string (value : String)
  | sequence
  | map
  deriving DecidableEq, Repr

namespace Found

def description : Found → String
  | null => "null"
  | boolean true => "boolean `true`"
  | boolean false => "boolean `false`"
  | integer n => "integer `" ++ n.repr ++ "`"
  | floating written => "floating point `" ++ written ++ "`"
  | string s => "string " ++ Text.quoted s
  | sequence => "sequence"
  | map => "map"

end Found

/-- The kinds of refusal. -/
inductive Category
  | syntactic
  | data
  | endOfText
  deriving DecidableEq, Repr

/-- Why a text is refused. -/
inductive ReadError
  | valueCutOff
  | listCutOff
  | objectCutOff
  | stringCutOff
  | expectedColon
  | expectedListSeparator
  | expectedObjectSeparator
  | expectedWord
  | expectedValue
  | keyNotString
  | trailingComma
  | trailingCharacters
  | invalidEscape
  | invalidNumber
  | numberOutOfRange
  | endedHexEscape
  | loneSurrogate
  | controlCharacter
  | invalidCodePoint
  | invalidType (found : Found) (wanted : String)
  | invalidValue (found : Found) (wanted : String)
  | invalidLength (length : Nat) (wanted : String)
  | missingField (name : String)
  | duplicateField (name : String)
  /-- The value is of the right kind and refused by the type it is read as. -/
  | unacceptable (reason : String)
  deriving DecidableEq, Repr

namespace ReadError

/-- The kind of a refusal. -/
def category : ReadError → Category
  | valueCutOff | listCutOff | objectCutOff | stringCutOff => .endOfText
  | invalidType .. | invalidValue .. | invalidLength .. | missingField _ | duplicateField _
  | unacceptable _ => .data
  | _ => .syntactic

/-- What is wrong, in words. -/
def message : ReadError → String
  | valueCutOff => "EOF while parsing a value"
  | listCutOff => "EOF while parsing a list"
  | objectCutOff => "EOF while parsing an object"
  | stringCutOff => "EOF while parsing a string"
  | expectedColon => "expected `:`"
  | expectedListSeparator => "expected `,` or `]`"
  | expectedObjectSeparator => "expected `,` or `\x7d`"
  | expectedWord => "expected ident"
  | expectedValue => "expected value"
  | keyNotString => "key must be a string"
  | trailingComma => "trailing comma"
  | trailingCharacters => "trailing characters"
  | invalidEscape => "invalid escape"
  | invalidNumber => "invalid number"
  | numberOutOfRange => "number out of range"
  | endedHexEscape => "unexpected end of hex escape"
  | loneSurrogate => "lone leading surrogate in hex escape"
  | controlCharacter =>
    "control character (\\u0000-\\u001F) found while parsing a string"
  | invalidCodePoint => "invalid unicode code point"
  | invalidType found wanted =>
    "invalid type: " ++ found.description ++ ", expected " ++ wanted
  | invalidValue found wanted =>
    "invalid value: " ++ found.description ++ ", expected " ++ wanted
  | invalidLength length wanted =>
    "invalid length " ++ length.repr ++ ", expected " ++ wanted
  | missingField name => "missing field `" ++ name ++ "`"
  | duplicateField name => "duplicate field `" ++ name ++ "`"
  | unacceptable reason => reason

end ReadError

end BearerAuth.Json
