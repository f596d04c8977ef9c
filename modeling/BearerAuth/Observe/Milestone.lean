import BearerAuth.Error
import BearerAuth.Http.Message
import BearerAuth.Observe.Record
import BearerAuth.Text.Composed
import BearerAuth.Text.Quoted

/-!
# Milestones

On its way a request passes milestones. Those of lookups and dials come from the depths of the
transport, the others from the client. A milestone can be written as a record, whose message is the
name of the milestone.
-/

namespace BearerAuth

open Http Network

/-- A point on the way of a request. -/
inductive Milestone
  /-- A connection is about to be taken. -/
  | getConnection (hostPort : String)
  /-- A host is about to be looked up. -/
  | lookupStart (host : String)
  /-- A lookup has ended; after a failure there are no addresses. -/
  | lookupDone (found : List Socket) (failure : Option Cause)
  /-- A connection is about to be dialed. -/
  | dialStart
  | dialDone (failure : Option Cause)
  /-- The headers are final, the credential in them is redacted. -/
  | wroteHeaders (method : String) (url : Url) (headers : Headers)
  /-- A connection has carried the request; it is reused if none was dialed for the request. -/
  | gotConnection (remote : Option Socket) (version : Version) (reused : Bool)
  | gotFirstByte (status : Nat)
  | requestFailed (reason : String)
  deriving DecidableEq, Repr

namespace Milestone

def name : Milestone → String
  | getConnection _ => "GetConn"
  | lookupStart _ => "DNSStart"
  | lookupDone .. => "DNSDone"
  | dialStart => "ConnectStart"
  | dialDone _ => "ConnectDone"
  | wroteHeaders .. => "WroteHeaders"
  | gotConnection .. => "GotConn"
  | gotFirstByte _ => "GotFirstResponseByte"
  | requestFailed _ => "RequestFailed"

/-- How a failure is shown that may be absent. -/
def shownFailure : Option Cause → String :=
  Text.optional fun cause => Text.quoted cause.message

/-- What a record of a milestone says. -/
def fields : Milestone → List (String × String)
  | getConnection hostPort => [("host_port", Text.quoted hostPort)]
  | lookupStart host => [("host", Text.quoted host)]
  | lookupDone found failure =>
    [("addrs", Text.listed (found.map Socket.text)), ("error", shownFailure failure)]
  | dialStart => []
  | dialDone failure => [("error", shownFailure failure)]
  | wroteHeaders method url headers =>
    [("method", method), ("url", url.text), ("headers", headers.shown)]
  | gotConnection remote version reused =>
    [("remote_addr", Text.optional Socket.text remote), ("version", version.text),
      ("reused", Text.flag reused)]
  | gotFirstByte status => [("status", status.repr)]
  | requestFailed reason => [("error", reason)]

def toRecord (level : Level) (m : Milestone) : Record :=
  ⟨level, m.name, m.fields⟩

end Milestone

end BearerAuth
