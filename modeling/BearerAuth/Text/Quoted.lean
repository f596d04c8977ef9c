import BearerAuth.Text.Shown

/-!
# Quoted text

A text is quoted by writing it between double quotes. A double quote or a backslash inside it gets
a backslash before it; the common controls have an escape of one letter, and any other character
that does not show is written by its code point in hexadecimal between braces.
-/

namespace BearerAuth.Text

/-- The code point of a character, in hexadecimal between braces. -/
def braced (c : Char) : List Char :=
  '\\' :: 'u' :: '\x7b' :: (Nat.toDigits 16 c.toNat ++ ['\x7d'])

/-- One character between quotes. -/
def quotedChar (c : Char) : List Char :=
  match c with
  | '\x00' => ['\\', '0']
  | '\t' => ['\\', 't']
  | '\n' => ['\\', 'n']
  | '\r' => ['\\', 'r']
  | '"' => ['\\', '"']
  | '\\' => ['\\', '\\']
  | c => if isShown c then [c] else braced c

def quoted (s : String) : String :=
  String.ofList ('"' :: (s.toList.flatMap quotedChar ++ ['"']))

end BearerAuth.Text
