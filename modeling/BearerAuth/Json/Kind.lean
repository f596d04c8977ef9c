import BearerAuth.Json.Literal
import BearerAuth.Json.Number

/-!
# Kinds of values

The first octet of a value tells its kind (`Kind.ofFirst?`). A reader that wants a value of another
kind looks at what is there first (`found`), so that a value that is not even well formed is refused
for its form.
-/

namespace BearerAuth.Json

open Reader

/-- The kinds of values. -/
inductive Kind
  | null
  | yes
  | no
  | number
  | string
  | list
  | object
  deriving DecidableEq, Repr

namespace Kind

/-- The kind of value that begins with an octet. -/
def ofFirst? (x : UInt8) : Option Kind :=
  match x with
  | 0x6e => some null
  | 0x74 => some yes
  | 0x66 => some no
  | 0x22 => some string
  | 0x5b => some list
  | 0x7b => some object
  | x => if x = Octet.minus ∨ isDigit x then some number else none

end Kind

/-- Takes off the rest of a word whose first letter has been taken off. -/
def readNull : Reader Unit := word [0x75, 0x6c, 0x6c]

/-- Takes off the rest of a word whose first letter has been taken off. -/
def readTrue : Reader Unit := word [0x72, 0x75, 0x65]

/-- Takes off the rest of a word whose first letter has been taken off. -/
def readFalse : Reader Unit := word [0x61, 0x6c, 0x73, 0x65]

/-- What a value that begins with `first` is found to be. Lists and objects are not looked into. -/
def found (first : UInt8) : Reader Found := do
  match Kind.ofFirst? first with
  | none => refuse .expectedValue
  | some .null => readNull *> pure .null
  | some .yes => readTrue *> pure (.boolean true)
  | some .no => readFalse *> pure (.boolean false)
  | some .number => return (← ofExcept (← Number.read first .valueCutOff).value).found
  | some .string => return .string (← Literal.read)
  | some .list => return .sequence
  | some .object => return .map

/-- Refuses a value that begins with `first` because another one is wanted. -/
def refuseFound {α : Type} (first : UInt8) (wanted : String) : Reader α := do
  refuse (.invalidType (← found first) wanted)

def readString : Reader String := do
  match ← symbol with
  | none => refuse .valueCutOff
  | some Octet.quote => Literal.read
  | some x => refuseFound x "a string"

/-- How a signed integer of 64 bits is named where one is wanted. -/
def int64Wanted : String := "i64"

/-- Reads a signed integer of 64 bits. -/
def readInt64 : Reader Int64 := do
  match ← symbol with
  | none => refuse .valueCutOff
  | some x =>
    if Kind.ofFirst? x = some .number then
      match ← ofExcept (← Number.read x .valueCutOff).value with
      | .integer n =>
        if n < 0x8000000000000000 then return Int64.ofInt n
        else refuse (.invalidValue (.integer n) int64Wanted)
      | .floating x => refuse (.invalidType (Number.Value.floating x).found int64Wanted)
    else refuseFound x int64Wanted

end BearerAuth.Json
