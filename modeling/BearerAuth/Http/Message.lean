import BearerAuth.Http.MediaType
import BearerAuth.Network.Socket
import BearerAuth.Text.Charset
import BearerAuth.Time.Duration
import BearerAuth.Url.Basic

/-!
# Requests and responses

A request may have a deadline of its own. A response may tell where it came from. Its body is a text
in the charset of its media type.
-/

namespace BearerAuth.Http

/-- A version of the protocol. -/
inductive Version
  | v0_9
  | v1_0
  | v1_1
  | v2
  | v3
  deriving DecidableEq, Repr

def Version.text : Version → String
  | v0_9 => "HTTP/0.9"
  | v1_0 => "HTTP/1.0"
  | v1_1 => "HTTP/1.1"
  | v2 => "HTTP/2.0"
  | v3 => "HTTP/3.0"

/-- What is asked for. -/
structure Request where
  method : String
  url : Url
  headers : Headers
  /-- How long the exchange may take. -/
  timeout : Option Time.Duration
  body : Bytes
  deriving DecidableEq, Repr

/-- What is answered. -/
structure Response where
  status : Nat
  version : Version
  headers : Headers
  remote : Option Network.Socket
  body : Bytes
  deriving DecidableEq, Repr

namespace Response

/-- The media type that the headers tell, if it is written in ASCII without controls. -/
def mediaType? (r : Response) : Option MediaType :=
  (r.headers.values .contentType).head?.bind fun value =>
    if value.octets.all (· < 127) then
      MediaType.ofText? (value.octets.map fun b => Char.ofNat b.toNat)
    else none

def charset (r : Response) : Text.Charset :=
  ((r.mediaType?.bind (·.charsetLabel?)).bind fun label =>
    Text.Charset.ofLabel? label.toList).getD .utf8

def text (r : Response) : String :=
  r.charset.decode r.body

end Response

end BearerAuth.Http
