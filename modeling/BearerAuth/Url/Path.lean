import BearerAuth.Url.Percent

/-!
# Paths

A path is a text that is empty or begins with a slash. Its segments stand between its slashes; a
single dot stands for the place where it is, and a double dot takes back the segment before it, also
when the dots are percent-encoded. At the end of a path both leave a slash. A drive letter is not
taken back.

Segments are appended to a path from the front of a text to its end (`Trail.read`). Tabs and line
ends in a segment are passed over, except that one may tell a drive letter from what follows it.
-/

namespace BearerAuth.Url

/-- The kinds of schemes. -/
inductive Kind
  | file
  /-- Another scheme that browsers know. -/
  | special
  | other
  deriving DecidableEq, Repr

namespace Kind

/-- Whether browsers know the scheme. A backslash is then as good as a slash. -/
def isSpecial : Kind → Bool
  | file | special => true
  | other => false

/-- Whether a character separates segments. -/
def isSlash (k : Kind) (c : Char) : Bool :=
  c = '/' || (k.isSpecial && c = '\\')

end Kind

/-- Tabs and line ends, which are passed over. -/
def isBreak (c : Char) : Bool :=
  c = '\t' || c = '\n' || c = '\r'

/-- A text without tabs and line ends. -/
def unbroken (text : List Char) : List Char :=
  text.filter fun c => !isBreak c

namespace Segment

/-- A segment with its percent-encoded dots decoded. -/
def dots : List Char → List Char
  | '%' :: '2' :: 'e' :: rest | '%' :: '2' :: 'E' :: rest => '.' :: dots rest
  | c :: rest => c :: dots rest
  | [] => []

/-- Whether a segment stands for the place where it is. -/
def isDot (s : List Char) : Bool := dots s = ['.']

/-- Whether a segment takes back the one before it. -/
def isDoubleDot (s : List Char) : Bool := dots s = ['.', '.']

/-- Whether a segment is a letter and a colon. -/
def isDrive (s : List Char) : Bool :=
  match s with
  | [c, ':'] => c.isAlpha
  | _ => false

/-- Whether a segment is a letter and a colon or a bar. -/
def isLooseDrive (s : List Char) : Bool :=
  match s with
  | [c, ':'] | [c, '|'] => c.isAlpha
  | _ => false

end Segment

/-- Whether a text begins with a drive letter, of which a slash of either kind or a mark is the
end. -/
def beginsWithDrive (text : List Char) : Bool :=
  Segment.isLooseDrive (text.takeWhile fun c => !(['/', '\\', '?', '#'].contains c))

def firstSegment (path : List Char) : List Char :=
  (path.drop 1).takeWhile (· ≠ '/')

/-- The parts of a text between slashes. -/
def segments (k : Kind) : List Char → List (List Char)
  | [] => [[]]
  | c :: rest =>
    if k.isSlash c then [] :: segments k rest
    else match segments k rest with
      | [] => [[c]]
      | s :: later => (c :: s) :: later

/-- The parts of a text between tabs and line ends. -/
def pieces : List Char → List (List Char)
  | [] => [[]]
  | c :: rest =>
    if isBreak c then [] :: pieces rest
    else match pieces rest with
      | [] => [[c]]
      | s :: later => (c :: s) :: later

/-- A path as far as it has been read. -/
structure Trail where
  /-- Its characters, the last one first. -/
  back : List Char
  /-- Whether its first segment was read as a drive letter. -/
  driven : Bool

namespace Trail

def path (t : Trail) : List Char :=
  t.back.reverse

def ofPath (path : List Char) : Trail :=
  ⟨path.reverse, false⟩

def last (t : Trail) : List Char :=
  (t.back.takeWhile (· ≠ '/')).reverse

/-- Without the last segment, unless that is the drive letter of a file. -/
def pop (k : Kind) (t : Trail) : Trail :=
  if k = .file && Segment.isDrive t.last then t
  else { t with back := t.back.dropWhile (· ≠ '/') }

def slashed (t : Trail) : Trail :=
  match t.back with
  | '/' :: _ => t
  | back => { t with back := '/' :: back }

/-- Without the slash at the end, unless it is the first one or follows a drive letter. -/
def unslashed (t : Trail) : Trail :=
  match t.back with
  | '/' :: before =>
    if before.contains '/' && !beginsWithDrive (before.takeWhile (· ≠ '/')).reverse then
      { t with back := before }
    else t
  | _ => t

/-- Whether a path that ends in these characters is nothing but a drive letter. -/
def isDrive (back : List Char) : Bool :=
  match back with
  | [':', c, _] => c.isAlpha
  | _ => false

end Trail

/-- A segment that is being read, and the path before it; of both the last character comes first. -/
structure Draft where
  before : List Char
  segment : List Char

namespace Draft

/-- What a slash makes of a drive letter at its end. The segment begins one character later. -/
def parted (d : Draft) : Draft :=
  match d.segment.reverse with
  | [] => ⟨'/' :: d.before, []⟩
  | first :: rest => ⟨first :: d.before, '/' :: rest.reverse⟩

/-- Whether path and segment together are nothing but a drive letter. Three characters tell. -/
def isDrive (d : Draft) : Bool :=
  Trail.isDrive (d.segment.take 4 ++ d.before.take 4)

/-- Reads a piece of the segment. A slash parts it from a drive letter of a file. -/
def piece (k : Kind) (d : Draft) (p : List Char) : Draft :=
  if p.isEmpty then d
  else
    let d := if k = .file && d.isDrive then d.parted else d
    { d with segment := (percentEncode .path p).reverseAux d.segment }

end Draft

namespace Trail

/-- Appends a segment and, if it is followed by one, a slash. -/
def append (k : Kind) (t : Trail) (text : List Char) (followed : Bool) : Trail :=
  let d := (pieces text).foldl (Draft.piece k) ⟨t.back, []⟩
  let segment := d.segment.reverse
  let before : Trail := { t with back := d.before }
  if Segment.isDoubleDot segment then
    let t := before.unslashed.pop k
    if followed then t.slashed else t
  else if Segment.isDot segment then before.slashed
  else
    let t : Trail :=
      if k = .file && (d.before.drop 1).isEmpty && Segment.isLooseDrive segment then
        ⟨':' :: segment.take 1 ++ d.before, true⟩
      else { t with back := d.segment ++ d.before }
    if followed then { t with back := '/' :: t.back } else t

def appendAll (k : Kind) (t : Trail) : List (List Char) → Trail
  | [] => t
  | [last] => t.append k last false
  | s :: later => appendAll k (t.append k s true) later

/-- The path of a file has one slash at its front. -/
def trimmed (k : Kind) (t : Trail) : Trail :=
  if k = .file then { t with back := (t.path.dropWhile (· = '/')).reverse ++ ['/'] } else t

/-- Appends the segments of a text to a path. -/
def read (k : Kind) (path text : List Char) : Trail :=
  ((ofPath path).appendAll k (segments k text)).trimmed k

end Trail

/-- A path with the segments of a text appended to it. -/
def resolve (k : Kind) (path text : List Char) : List Char :=
  (Trail.read k path text).path

end BearerAuth.Url
