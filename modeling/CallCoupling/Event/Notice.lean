import CallCoupling.Event.Hub

/-!
# What an analysis tells

Two kinds of news are published: the progress of a run, step by step, and the size of a finished
result.
-/

set_option autoImplicit false

namespace CallCoupling

/-- The progress of a run. -/
structure Status where
  runId : String := ""
  state : String := ""
  /-- What a user reads; the text of an error may hold stray bytes. -/
  message : Loose := []
  step : Int := 0
  total : Int := 0
deriving DecidableEq, Repr, Inhabited

namespace Status

/-- The JSON form of a status. -/
def toJson (s : Status) : Json :=
  .ofFields [("run_id", .text s.runId), ("state", .text s.state), ("message", .loose s.message),
    ("step", .int s.step), ("total", .int s.total)]

end Status

/-- The size of a result. -/
structure Outline where
  runId : String := ""
  types : Int := 0
  /-- How many couplings are not zero. -/
  pairs : Int := 0
  nodes : Int := 0
  links : Int := 0
  complete : Bool := false
deriving DecidableEq, Repr, Inhabited

namespace Outline

/-- The JSON form of an outline. -/
def toJson (o : Outline) : Json :=
  .ofFields [("run_id", .text o.runId), ("types", .int o.types), ("pairs", .int o.pairs),
    ("nodes", .int o.nodes), ("links", .int o.links), ("complete", .bool o.complete)]

end Outline

namespace Hub

/-- Publish the progress of a run. -/
def publishStatus (h : Hub) (s : Status) : Except EventError Hub :=
  h.publish statusTopic s.runId s.state (some s.toJson)

/-- Publish the size of a finished result. -/
def publishOutline (h : Hub) (o : Outline) : Except EventError Hub :=
  h.publish couplingTopic o.runId "ready" (some o.toJson)

end Hub

end CallCoupling
