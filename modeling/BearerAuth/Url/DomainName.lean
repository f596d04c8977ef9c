import BearerAuth.Text.Composition
import BearerAuth.Text.Direction
import BearerAuth.Text.Joining
import BearerAuth.Url.DomainName.Repertoire
import BearerAuth.Url.Punycode

/-!
# Domain names

A label that begins with the mark of international labels stands for one with characters above ASCII
(`labelOf?`). Such a label must be composed, must not begin with a mark, and has a joiner only where
letters join (`isLabel`). If letters of a name run to the left, no label may mix directions
(`isDirected`).
-/

namespace BearerAuth.Url.DomainName

def labels (name : List Char) : List (List Char) :=
  name.splitOn '.'

/-- The mark of international labels. -/
def mark : List Char := "xn--".toList

/-- Whether letters around a place join, given the text before it, in reverse, and the text after
it. -/
def joinAround (before after : List Char) : Bool :=
  (before.find? (!Text.isJoinedAcross ·)).any Text.joinsNext
    && (after.find? (!Text.isJoinedAcross ·)).any Text.joinsPrevious

/-- Whether each joiner has its place: after a mark that silences the vowel of a letter, which has
class nine, or, if it parts letters, between letters that join. The text before it is in reverse. -/
def joinersFit (before : List Char) : List Char → Bool
  | [] => true
  | c :: after =>
    (if c = '\u200c' ∨ c = '\u200d' then
      (before.head?.any (Text.markClass · = 9)) || (c = '\u200c' && joinAround before after)
    else true)
      && joinersFit (c :: before) after

/-- Whether a text is an international label. -/
def isLabel (label : List Char) : Bool :=
  label.any (0x80 ≤ ·.toNat) && label.all (fun c => c.toNat < 0x80 || isInRepertoire c)
    && !label.head?.any Text.isMark && joinersFit [] label && Text.recomposed label = label

def labelOf? (label : List Char) : Option (List Char) :=
  if mark.isPrefixOf label then
    (Punycode.decode? (label.drop mark.length)).filter isLabel
  else some label

/-- Whether a label keeps to the direction of its first letter. -/
def isDirected (label : List Char) : Bool :=
  let directions := label.map Text.Direction.ofChar
  let last := directions.reverse.find? (· ≠ .mark)
  match directions.head? with
  | none => true
  | some .rightward =>
    directions.all (fun d => d ≠ .leftward ∧ d ≠ .arabicNumber)
      && (last = some .rightward || last = some .number)
  | some .leftward =>
    directions.all (· ≠ .rightward) && last ≠ some .neutral
      && !(directions.contains .number && directions.contains .arabicNumber)
  | some _ => false

/-- Whether a name in lower case is a domain name. -/
def isValid (name : List Char) : Bool :=
  match (labels name).mapM labelOf? with
  | none => false
  | some labels =>
    let runsLeft := labels.any (·.any fun c =>
      [.leftward, .arabicNumber].contains (Text.Direction.ofChar c))
    !runsLeft || labels.all isDirected

end BearerAuth.Url.DomainName
