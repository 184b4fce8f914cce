import CallCoupling.Failure
import CallCoupling.Json.Reader
import CallCoupling.Json.Writer

/-!
# Events

An event is a piece of news on a topic.  It travels to a client as a frame: a line with its version, a
line with its JSON text, and an empty line.  The JSON text is written without line ends, whatever the
event holds, so the empty lines of a stream separate its frames.
-/

set_option autoImplicit false

namespace CallCoupling

/-- News on a topic. -/
structure Event where
  topic : String
  /-- The run that caused the event; empty if none did. -/
  runId : String := ""
  kind : String
  data : Json := .null
  /-- The place of the event among those of its topic. -/
  version : Int
deriving Inhabited

/-- Why an event cannot be published, received or sent. -/
inductive EventError where
  /-- The data to publish has no JSON form. -/
  | unspeakable
  /-- The text of the data is no JSON document. -/
  | malformedData
  /-- No topic has the name. -/
  | unknownTopic (name : String)
  /-- The hub has shut down. -/
  | closed
  /-- The receiver takes no more. -/
  | writeFailed
deriving DecidableEq, Repr

namespace EventError

/-- The cause and the text of an error. -/
def failure : EventError → Failure
  | .unspeakable => .other "failed to marshal event data: unsupported value"
  | .malformedData => .other "failed to marshal event: invalid JSON text"
  | .unknownTopic name => .other ("unknown topic " ++ Text.quoted name)
  | .closed => ⟨.closed, "publisher is closed"⟩
  | .writeFailed => .other "write failed"

end EventError

namespace Event

/-- The event with its data read from a text; without a text the data is null. -/
def withData (e : Event) : Option String → Except EventError Event
  | none => .ok { e with data := .null }
  | some s =>
    match Json.parse? s.toList with
    | some v => .ok { e with data := v }
    | none => .error .malformedData

/-- The JSON form of an event.  An empty run is left out. -/
def toJson (e : Event) : Json :=
  .ofFields ([("topic", .text e.topic)] ++
    (if e.runId = "" then [] else [("run_id", .text e.runId)]) ++
    [("type", .text e.kind), ("data", e.data.safe), ("version", .int e.version)])

/-- The frame that carries an event. -/
def frame (e : Event) : String :=
  "id: " ++ Integer.text e.version ++ "\ndata: " ++ e.toJson.compact ++ "\n\n"

/-- Send a frame to a receiver that accepts `room` more writes, or any number if there is no limit. -/
def send (e : Event) (room : Option Nat) : Except EventError String :=
  if room = some 0 then .error .writeFailed else .ok e.frame

end Event

end CallCoupling
