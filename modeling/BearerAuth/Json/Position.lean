/-!
# Positions

The words of a reason may end by naming a line and a column. These are the place of the fault and
no part of what is wrong, so a message goes without them (`withoutPosition`). The last such ending
alone is taken off.
-/

namespace BearerAuth.Json

/-- The words before the number of a line. -/
def lineMark : List Char := " at line ".toList

/-- The words before the number of a column. -/
def columnMark : List Char := " column ".toList

/-- Whether some digits write a number of at most 64 bits. -/
def isPlaceNumber (digits : List Char) : Bool :=
  !digits.isEmpty &&
    digits.foldl (fun n c => n * 10 + (c.toNat - 0x30)) 0 < 0x10000000000000000

/-- Whether a text names a line and a column, and nothing else. -/
def isPosition (text : List Char) : Bool :=
  lineMark.isPrefixOf text &&
    let fromLine := text.drop lineMark.length
    let toColumn := fromLine.dropWhile Char.isDigit
    let column := toColumn.drop columnMark.length
    isPlaceNumber (fromLine.takeWhile Char.isDigit) && columnMark.isPrefixOf toColumn
      && column.all Char.isDigit && isPlaceNumber column

/-- A text without the position at its end. -/
def withoutPosition : List Char → List Char
  | [] => []
  | c :: rest => if isPosition (c :: rest) then [] else c :: withoutPosition rest

end BearerAuth.Json
