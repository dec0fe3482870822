import AcmeClient.Http.Response

/-!
# The wire

A wire takes requests to a server and brings back its replies, which are given in advance; a
reply may be lost on the way. What went over the wire is remembered in order. A wire without
connection takes no request.
-/

namespace AcmeClient.Http

/-- A request that was sent, and the reply unless it was lost. -/
structure Exchange where
  request : Request
  reply : Option Reply
  deriving DecidableEq, Repr

/-- The way to a server: the replies to come, and what went over it, oldest first. -/
structure Wire where
  isConnected : Bool := true
  replies : List (Option Reply) := []
  exchanges : List Exchange := []
  deriving DecidableEq, Repr

namespace Wire

/-- The wire after an exchange. -/
def record (w : Wire) (request : Request) (reply : Option Reply) : Wire :=
  { w with replies := w.replies.tail, exchanges := w.exchanges ++ [⟨request, reply⟩] }

/-- Sends a request and takes the reply to it, if one arrives. -/
def send (w : Wire) (request : Request) : Option Reply × Wire :=
  if w.isConnected then
    let reply := w.replies.head?.join.map (·.receivedFor request.method)
    (reply, w.record request reply)
  else (none, w)

/-- Exchanges are added at the end. -/
theorem exchanges_send (w : Wire) (request : Request) :
    (w.send request).2.exchanges =
      if w.isConnected then w.exchanges ++ [⟨request, (w.send request).1⟩] else w.exchanges := by
  unfold send
  split <;> rfl

end Wire

/-- Whether requests can be sent to URLs of a scheme: in the clear, or over TLS. -/
def isTransportScheme (scheme : String) : Bool := scheme == "http" || scheme == "https"

/-- The web address that a text stands for, as a server sees it. -/
def address? (url : String) : Option Url :=
  match Url.parse url with
  | .ok u => if isTransportScheme u.scheme then some u.onWire else none
  | .error _ => none

end AcmeClient.Http
