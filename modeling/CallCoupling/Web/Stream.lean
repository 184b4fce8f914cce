import CallCoupling.Web.Server

/-!
# Event streams

A client that subscribes gets a response that does not end: a greeting, and then a frame for every event.
The stream ends when the client leaves, when a frame cannot be written or when the hub closes.  A greeting
that cannot be written does not end it.
-/

set_option autoImplicit false

namespace CallCoupling

/-- The response to a subscriber. -/
structure Stream where
  /-- The subscription that it shows. -/
  place : Nat
  /-- How many more writes the client accepts; any number if there is no limit. -/
  room : Option Nat := none
  /-- What was written, the greeting included. -/
  body : String := ""
  ended : Bool := false
deriving DecidableEq, Repr, Inhabited

namespace Stream

/-- The headers of a stream. -/
def headers : List (String × String) :=
  [("Content-Type", "text/event-stream"), ("Cache-Control", "no-cache"), ("Connection", "keep-alive"),
    ("Access-Control-Allow-Origin", "*")]

/-- The first line of a stream. -/
def greeting : String := ": connected\n\n"

/-- Write to the client, if it accepts. -/
def write (s : Stream) (text : String) : Option Stream :=
  match s.room with
  | some 0 => none
  | some (n + 1) => some { s with room := some n, body := s.body ++ text }
  | none => some { s with body := s.body ++ text }

/-- A stream at its start. -/
def start (place : Nat) (room : Option Nat) : Stream :=
  let s : Stream := { place, room }
  (s.write greeting).getD s

/-- Write frames until one fails; a failure ends the stream. -/
def frames (s : Stream) : List Event → Stream
  | [] => s
  | e :: rest =>
    match s.write e.frame with
    | some s => s.frames rest
    | none => { s with ended := true }

/-- End the stream and take its subscription off the register. -/
def leave (s : Stream) (hub : Hub) : Stream × Hub := ({ s with ended := true }, hub.unsubscribe s.place)

/-- Show all that waits in the subscription. -/
def pump (s : Stream) (hub : Hub) : Stream × Hub :=
  if s.ended then (s, hub)
  else
    let (hub, events) := hub.drain s.place
    let s := s.frames events
    if s.ended then s.leave hub
    else if ((hub.subscriptions[s.place]?).map Subscription.ended).getD true then
      ({ s with ended := true }, hub)
    else (s, hub)

/-- What the client has got. -/
def response (s : Stream) : Response := { headers, body := s.body }

end Stream

end CallCoupling
