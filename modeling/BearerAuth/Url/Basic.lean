import BearerAuth.Url.Host
import BearerAuth.Url.Path

/-!
# URLs

A URL has a scheme, perhaps an authority, a path, and perhaps a query and a fragment. Its text is
put together from these (`Url.text`). Two requests go to the same place when the texts of their
hosts and their effective ports agree, which is what `Url.hostPort` writes out.
-/

namespace BearerAuth

open Url

/-- What may stand between two slashes and the path. -/
structure Url.Authority where
  user : List Char
  /-- A password is never empty. -/
  password : Option (List Char)
  host : Host
  port : Option Nat
  deriving DecidableEq, Repr

/-- A path of segments, or a text that is not looked into. -/
inductive Url.Path
  | rooted (path : List Char)
  | bare (text : List Char)
  deriving DecidableEq, Repr

/-- A resource on the network or elsewhere. -/
structure Url where
  scheme : List Char
  authority : Option Authority
  path : Path
  query : Option (List Char)
  fragment : Option (List Char)
  deriving DecidableEq, Repr

namespace Url

def kindOf (scheme : List Char) : Kind :=
  match String.ofList scheme with
  | "file" => .file
  | "http" | "https" | "ws" | "wss" | "ftp" => .special
  | _ => .other

/-- The port of a scheme, where it has one. -/
def defaultPort (scheme : List Char) : Option Nat :=
  match String.ofList scheme with
  | "http" | "ws" => some 80
  | "https" | "wss" => some 443
  | "ftp" => some 21
  | _ => none

def kind (u : Url) : Kind :=
  kindOf u.scheme

/-- The host, which may be empty. -/
def host (u : Url) : Host :=
  match u.authority with
  | some a => a.host
  | none => .empty

/-- The port that is written, or that of the scheme. -/
def effectivePort (u : Url) : Option Nat :=
  match u.authority.bind (·.port) with
  | some port => some port
  | none => defaultPort u.scheme

/-- Whether the path is one of segments. -/
def isHierarchical (u : Url) : Bool :=
  match u.path with
  | .rooted _ => true
  | .bare _ => false

/-- User and password before a host. -/
def Authority.userText (a : Authority) : List Char :=
  match a.password with
  | some password => a.user ++ ':' :: (password ++ ['@'])
  | none => if a.user.isEmpty then [] else a.user ++ ['@']

/-- A port after a host. -/
def portText : Option Nat → List Char
  | some port => ':' :: Nat.toDigits 10 port
  | none => []

def Authority.text (a : Authority) : List Char :=
  '/' :: '/' :: (a.userText ++ a.host.text ++ portText a.port)

/-- The text of a path. Without an authority, two slashes at its front are kept apart from the
scheme by a dot, so that they are not taken for those of one. -/
def pathText (authority : Option Authority) : Path → List Char
  | .rooted ('/' :: '/' :: rest) =>
    (if authority.isNone then ['/', '.'] else []) ++ '/' :: '/' :: rest
  | .rooted path => path
  | .bare text => text

/-- An optional part after its mark. -/
def marked (mark : Char) : Option (List Char) → List Char
  | some text => mark :: text
  | none => []

/-- The text of a URL. -/
def text (u : Url) : String :=
  String.ofList (u.scheme ++ ':' :: ((u.authority.map Authority.text).getD []
    ++ pathText u.authority u.path ++ marked '?' u.query ++ marked '#' u.fragment))

/-- Where requests for the URL go: its host and its effective port. -/
def hostPort (u : Url) : String :=
  String.ofList (u.host.text ++ portText u.effectivePort)

end Url

end BearerAuth
