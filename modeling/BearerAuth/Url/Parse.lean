import BearerAuth.Url.Basic

/-!
# Reading URLs

A text is read on its own (`Url.parse`) or relative to a base (`Url.join`), from which it takes the
parts that it lacks. Blanks and controls around a text and tabs and line ends inside it are passed
over. In the schemes that browsers know, a backslash is read as a slash, any number of slashes may
stand before the authority, and a host must be there, except for files.
-/

namespace BearerAuth.Url

/-- A text without blanks and controls around it. -/
def trimmed (text : List Char) : List Char :=
  (text.dropWhile (· ≤ ' ')).reverse.dropWhile (· ≤ ' ') |>.reverse

/-- Splits a scheme off, in lower case, and its colon. -/
def splitScheme? (text : List Char) : Option (List Char × List Char) :=
  let isSchemeChar c := c.isAlphanum || ['+', '-', '.'].contains c || isBreak c
  match text.head?, text.dropWhile isSchemeChar with
  | some first, ':' :: rest =>
    if first.isAlpha then
      some ((unbroken (text.takeWhile isSchemeChar)).map Char.toLower, rest)
    else none
  | _, _ => none

def encodeFragment (text : List Char) : List Char :=
  percentEncode .fragment (unbroken text)

def splitFragment (text : List Char) : List Char × Option (List Char) :=
  match text.dropWhile (· ≠ '#') with
  | [] => (text, none)
  | _ :: fragment => (text.takeWhile (· ≠ '#'), some (encodeFragment fragment))

/-- The query that a text writes in a URL of the given kind. -/
def encodeQuery (k : Kind) (text : List Char) : List Char :=
  percentEncode (if k.isSpecial then .specialQuery else .query) (unbroken text)

/-- What follows the hierarchical part of a URL. -/
structure Tail where
  query : Option (List Char)
  fragment : Option (List Char)

/-- Splits query and fragment off. -/
def splitTail (k : Kind) (text : List Char) : List Char × Tail :=
  let (text, fragment) := splitFragment text
  match text.dropWhile (· ≠ '?') with
  | [] => (text, ⟨none, fragment⟩)
  | _ :: query => (text.takeWhile (· ≠ '?'), ⟨some (encodeQuery k query), fragment⟩)

/-- Splits an authority off, up to the path. -/
def splitAuthority (k : Kind) (text : List Char) : List Char × List Char :=
  (text.takeWhile fun c => !k.isSlash c, text.dropWhile fun c => !k.isSlash c)

/-- Splits user and password off at the last sign that can end them. -/
def splitUser (authority : List Char) : Option (List Char) × List Char :=
  match authority.reverse.dropWhile (· ≠ '@') with
  | [] => (none, authority)
  | _ :: user => (some user.reverse, (authority.reverse.takeWhile (· ≠ '@')).reverse)

/-- User and password, which the first colon separates. -/
def readUser (user : List Char) : List Char × Option (List Char) :=
  let encode := percentEncode .userinfo
  match user.dropWhile (· ≠ ':') with
  | [] | [_] => (encode (user.takeWhile (· ≠ ':')), none)
  | _ :: password => (encode (user.takeWhile (· ≠ ':')), some (encode password))

/-- Splits a port off after the first colon outside brackets. -/
def splitPort (inside : Bool) : List Char → List Char × Option (List Char)
  | [] => ([], none)
  | c :: rest =>
    if c = ':' ∧ !inside then ([], some rest)
    else
      let inside := if c = '[' then true else if c = ']' then false else inside
      let (host, port) := splitPort inside rest
      (c :: host, port)

/-- Reads a port, up to a backslash; that of the scheme is left out. -/
def readPort (scheme text : List Char) : Except Error (Option Nat × List Char) :=
  let digits := text.takeWhile (· ≠ '\\')
  let rest := text.dropWhile (· ≠ '\\')
  if digits.isEmpty then .ok (none, rest)
  else match number? 10 digits with
    | none => .error .invalidPort
    | some port =>
      if 65535 < port then .error .invalidPort
      else .ok (if some port = defaultPort scheme then none else some port, rest)

def readHost (k : Kind) (text : List Char) : Except Error Host :=
  if k.isSpecial then
    if text.isEmpty then .error .emptyHost else Host.read text
  else Host.readBare text

/-- Reads an authority, and what stands between its port and the first slash. An empty one after a
sign that ends a user is refused if anything follows it. -/
def readAuthority (scheme text : List Char) (followed : Bool) :
    Except Error (Authority × List Char) := do
  let (user, place) := splitUser text
  if user = some [] ∧ place.isEmpty ∧ followed then throw .emptyHost
  let (user, password) := readUser (user.getD [])
  let (hostText, port) := splitPort false place
  let host ← readHost (kindOf scheme) hostText
  if host = .empty ∧ port.isSome then throw .emptyHost
  let (port, rest) ← readPort scheme (port.getD [])
  if host = .empty ∧ (!user.isEmpty ∨ password.isSome) then throw .emptyHost
  return (⟨user, password, host, port⟩, rest)

/-- The path after an authority. -/
def rootedPath (k : Kind) (text : List Char) : Trail :=
  match text with
  | [] => Trail.ofPath (if k.isSpecial then ['/'] else [])
  | c :: rest => Trail.read k ['/'] (if k.isSlash c then rest else c :: rest)

/-- Reads what follows two slashes. -/
def readRemote (scheme text : List Char) : Except Error Url := do
  let k := kindOf scheme
  let (text, tail) := splitTail k (unbroken text)
  let (authority, path) := splitAuthority k text
  let followed := !path.isEmpty || tail.query.isSome || tail.fragment.isSome
  let (authority, rest) ← readAuthority scheme authority followed
  let path := (rootedPath k (rest ++ path)).path
  return ⟨scheme, some authority, .rooted path, tail.query, tail.fragment⟩

def fileScheme : List Char := "file".toList

def ofFile (host : Host) (path : List Char) (tail : Tail) : Url :=
  ⟨fileScheme, some ⟨[], none, host, none⟩, .rooted path, tail.query, tail.fragment⟩

/-- What follows a slash at the front of a text. -/
def afterSlash? (k : Kind) (text : List Char) : Option (List Char) :=
  match text.dropWhile isBreak with
  | c :: rest => if k.isSlash c then some rest else none
  | [] => none

/-- Reads what follows the two slashes of a file. Where a drive letter stands in the place of the
host, it begins the path, and after a host that begins the path with one there is no host. -/
def readRemoteFile (text : List Char) : Except Error Url := do
  let (text, tail) := splitTail .file text
  let (name, path) := splitAuthority .file text
  let name := unbroken name
  if Segment.isLooseDrive name then return ofFile .empty (resolve .file ['/'] text) tail
  let host ← if name.isEmpty then pure .empty else Host.read name
  if host = .empty ∨ host = .name "localhost".toList then
    return ofFile .empty (resolve .file ['/'] path) tail
  let trail := rootedPath .file path
  return ofFile (if trail.driven then .empty else host) trail.path tail

/-- A URL with another fragment. -/
def withFragment (u : Url) (fragment : List Char) : Url :=
  { u with fragment := some (encodeFragment fragment) }

/-- The path, if it is one of segments. -/
def rooted (u : Url) : List Char :=
  match u.path with
  | .rooted path => path
  | .bare _ => []

/-- The path without its last segment. -/
def directory (u : Url) : List Char :=
  ((Trail.ofPath u.rooted).pop u.kind).path

/-- A URL with another path and tail. -/
def withPath (u : Url) (path : List Char) (tail : Tail) : Url :=
  { u with path := .rooted path, query := tail.query, fragment := tail.fragment }

/-- Reads a file, relative to a base if there is one. -/
def readFile (base : Option Url) (text : List Char) : Except Error Url :=
  match afterSlash? .file text with
  | some rest =>
    match afterSlash? .file rest with
    | some rest => readRemoteFile rest
    | none => .ok (fromRoot rest)
  | none => .ok (fromHere text)
where
  /-- A path from the root, on the host of the base or on its drive. -/
  fromRoot (text : List Char) : Url :=
    let (path, tail) := splitTail .file text
    let base := if beginsWithDrive (unbroken path) then none else base
    match base with
    | none => ofFile .empty (resolve .file ['/'] path) tail
    | some b =>
      let first := firstSegment b.rooted
      if Segment.isDrive first then ofFile .empty (resolve .file ('/' :: first ++ ['/']) path) tail
      else ofFile b.host (resolve .file ['/'] path) tail
  /-- A path from where the base is. -/
  fromHere (text : List Char) : Url :=
    let (path, tail) := splitTail .file text
    match base, (unbroken path).isEmpty with
    | some b, true =>
      match tail.query with
      | some query => { b with query := some query, fragment := tail.fragment }
      | none => { b with fragment := tail.fragment }
    | some b, false =>
      if beginsWithDrive (unbroken path) then ofFile .empty (resolve .file ['/'] path) tail
      else b.withPath (resolve .file b.directory path) tail
    | none, _ => ofFile .empty (resolve .file ['/'] path) tail

/-- Reads a reference relative to a base that is no file. -/
def readRelative (base : Url) (text : List Char) : Except Error Url :=
  match unbroken text with
  | c :: d :: rest =>
    if isEitherSlash c && isEitherSlash d then
      readRemote base.scheme (if c = '/' ∧ d = '/' then rest else rest.dropWhile isEitherSlash)
    else .ok (inside (c :: d :: rest))
  | text => .ok (inside text)
where
  /-- Whether a character is a slash of either kind. -/
  isEitherSlash (c : Char) : Bool := c = '/' || c = '\\'
  /-- A reference that keeps the authority. -/
  inside (text : List Char) : Url :=
    let (path, tail) := splitTail base.kind text
    match path with
    | [] =>
      match tail.query with
      | some query => { base with query := some query, fragment := tail.fragment }
      | none => { base with fragment := tail.fragment }
    | c :: rest =>
      if isEitherSlash c then base.withPath (resolve base.kind ['/'] rest) tail
      else
        let start := if base.directory.isEmpty then ['/'] else base.directory
        base.withPath (resolve base.kind start path) tail

/-- Reads what follows the scheme of a URL that browsers do not know. -/
def readOther (scheme text : List Char) : Except Error Url :=
  match unbroken text with
  | '/' :: '/' :: rest => readRemote scheme rest
  | '/' :: rest =>
    let (path, tail) := splitTail .other rest
    .ok ⟨scheme, none, .rooted (resolve .other ['/'] path), tail.query, tail.fragment⟩
  | text =>
    let (path, tail) := splitTail .other text
    .ok ⟨scheme, none, .bare (percentEncode .controls path), tail.query, tail.fragment⟩

/-- Reads what follows a scheme. Where the base has the same scheme and no authority follows, the
text is relative all the same. -/
def readAbsolute (base : Option Url) (scheme text : List Char) : Except Error Url :=
  match kindOf scheme with
  | .file => readFile (base.filter (·.scheme = fileScheme)) text
  | .special =>
    let text := unbroken text
    let slashes := text.takeWhile Kind.special.isSlash
    match base with
    | some b =>
      if slashes.length < 2 ∧ b.scheme = scheme then readRelative b text
      else readRemote scheme (text.drop slashes.length)
    | none => readRemote scheme (text.drop slashes.length)
  | .other => readOther scheme text

/-- Reads a text, relative to a base if there is one. -/
def read (base : Option Url) (text : List Char) : Except Error Url :=
  let text := trimmed text
  match splitScheme? text with
  | some (scheme, rest) => readAbsolute base scheme rest
  | none =>
    match base, text with
    | none, _ => .error .relativeWithoutBase
    | some b, '#' :: fragment => .ok (b.withFragment fragment)
    | some b, text =>
      if !b.isHierarchical then .error .relativeToBareBase
      else if b.kind = .file then readFile (some b) text
      else readRelative b text

/-- Reads a text on its own. -/
def parse (text : String) : Except Error Url :=
  read none text.toList

/-- Reads a text relative to a base. -/
def join (base : Url) (text : String) : Except Error Url :=
  read (some base) text.toList

end BearerAuth.Url
