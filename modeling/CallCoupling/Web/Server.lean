import CallCoupling.Event.Notice
import CallCoupling.Graph.Focus
import CallCoupling.Json.Writer
import CallCoupling.Run.Observer
import CallCoupling.Web.Page
import CallCoupling.Web.Route

/-!
# The server

A server keeps the latest status and the latest result, answers questions about them and tells subscribers
what is new.  It observes runs: a failed run changes the status and leaves the result as it was.
-/

set_option autoImplicit false

namespace CallCoupling

/-- The coupling of two types as a client reads it. -/
structure PairRecord where
  a : Name
  b : Name
  strength : Nat
  /-- The count from `a` to `b`. -/
  forward : Nat
  /-- The count from `b` to `a`. -/
  backward : Nat
deriving DecidableEq, Repr

namespace PairRecord

/-- The JSON form of a record. -/
def toJson (p : PairRecord) : Json :=
  .ofFields [("a", .loose p.a), ("b", .loose p.b), ("strength", .nat p.strength),
    ("forward", .nat p.forward), ("backward", .nat p.backward)]

end PairRecord

namespace Result

/-- The coupling of two types in both directions. -/
def pairRecord (r : Result) (a b : Name) : PairRecord :=
  ⟨a, b, r.table.coupling a b, r.matrix.count a b, r.matrix.count b a⟩

/-- The records of the couplings, strongest first. -/
def records (r : Result) : List PairRecord := r.table.pairs.map fun p => r.pairRecord p.a p.b

end Result

/-- What a server knows. -/
structure Server where
  hub : Hub := Hub.standard
  status : Status := { state := "initializing", message := "Waiting for analysis" }
  result : Option Result := none

namespace Server

/-! ## What it is told -/

/-- Keep a status and publish it. -/
def takeStatus (s : Server) (status : Status) : Server × Option Failure :=
  let s := { s with status }
  match s.hub.publishStatus status with
  | .ok hub => ({ s with hub }, none)
  | .error e => (s, some e.failure)

/-- The size of a result. -/
def outline (r : Result) : Outline :=
  { runId := r.runId
    types := r.table.labels.length
    pairs := r.table.pairs.length
    nodes := r.document.nodes.length
    links := r.document.links.length
    complete := true }

/-- Keep a result and publish its size; nobody is told if the hub is closed. -/
def takeResult (s : Server) (r : Result) : Server :=
  { s with
    result := some r
    hub := match s.hub.publishOutline (outline r) with
      | .ok hub => hub
      | .error _ => s.hub }

/-- A server as the observer of runs that are never cancelled. -/
def observer : Observer Server where
  status status s := s.takeStatus status
  result r s := s.takeResult r
  cancelled _ := false

/-- End all subscriptions. -/
def close (s : Server) : Server := { s with hub := s.hub.close }

/-! ## What it answers -/

/-- A response with data. -/
def data (v : Json) : Response :=
  { headers := [("Content-Type", "application/json")], body := v.compact ++ "\n" }

/-- A list of texts. -/
def textList (xs : List Loose) : Json := .array (xs.map Json.loose)

/-- Labels and rows of a square table. -/
def tableFields (labels : List Name) (rows : List (List Nat)) : List (String × Json) :=
  [("labels", textList labels), ("rows", .array (rows.map fun row => .array (row.map Json.nat)))]

/-- The state of the analysis and the counts of the latest result. -/
def overview (s : Server) : Json :=
  let filled (key : String) (value : Loose) : List (String × Json) :=
    if value.isEmpty then [] else [(key, .loose value)]
  let status := [("status", s.status.toJson), ("ready", .bool s.result.isSome)]
  .ofFields (match s.result with
    | none =>
      status ++ [("types", .nat 0), ("methods", .nat 0), ("invocations", .nat 0), ("dropped", .nat 0),
        ("durationMs", .nat 0), ("written", .array [])]
    | some r =>
      status ++ filled "runId" r.runId ++ filled "reason" r.reason ++ filled "project" r.project.name ++
        [("types", .nat r.project.typeList.length), ("methods", .nat r.project.methods.length),
          ("invocations", .nat r.project.invocationCount), ("dropped", .nat r.matrix.dropped),
          ("durationMs", .int r.elapsed.milliseconds), ("written", textList (r.written.map Loose.ofString))])

/-- The document of the call graph, empty before the first result. -/
def graph (s : Server) : Json :=
  ((s.result.map Result.document).getD { nodes := [], links := [] }).toJson

/-- The coupling table with its pairs, strongest first. -/
def coupling (s : Server) : Json :=
  .ofFields (match s.result with
    | none => tableFields [] [] ++ [("pairs", .array [])]
    | some r =>
      tableFields r.table.labels r.table.values ++ [("pairs", .array (r.records.map PairRecord.toJson))])

/-- The directed counts. -/
def counts (s : Server) : Json :=
  .ofFields (match s.result with
    | none => tableFields [] []
    | some r =>
      let labels := r.matrix.labels
      tableFields labels (labels.map fun row => labels.map fun col => r.matrix.count row col))

/-- The JSON form of a view.  Distances are named by node, and names are in the order of texts. -/
def viewJson (v : View) : Json :=
  let distances := (v.distances.map fun (i, d) => (Integer.text i, Json.nat d)).mergeSort
    fun a b => a.1 ≤ b.1
  .ofFields (v.document.fields ++
    [("selected", .array (v.selected.map Json.nat)), ("distances", .ofFields distances)])

/-- The response before the first result. -/
def unavailable : Response := .error 503 "Analysis not available"

/-- The depth that a query asks for; the text of one that is no number is given back. -/
def depthOf (a : Address) : Except Loose Int :=
  match a.queryValues "depth" with
  | [] => .ok 1
  | [] :: _ => .ok 1
  | t :: _ =>
    match t.text?.bind fun s => (Integer.parseDecimal s).toOption with
    | some n => .ok n
    | none => .error t

/-- The neighbourhood that a query selects. -/
def focus (s : Server) (a : Address) : Response :=
  match s.result with
  | none => unavailable
  | some r =>
    match depthOf a with
    | .error t => .error 400 ("invalid depth " ++ Text.quotedLoose t)
    | .ok depth =>
      match r.graph.focus (a.queryValues "select") depth with
      | .ok v => data (viewJson v)
      | .error e => .error 404 e.failure.message.shown

/-- The coupling of two types, if both are known. -/
def pair (s : Server) (a b : Loose) : Response :=
  match s.result with
  | none => unavailable
  | some r =>
    if !r.matrix.has a then .error 404 ("unknown type " ++ Text.quotedLoose a)
    else if !r.matrix.has b then .error 404 ("unknown type " ++ Text.quotedLoose b)
    else data (r.pairRecord a b).toJson

/-- Subscribe to a topic: the subscription's place, or the response to a client that cannot. -/
def subscribe (s : Server) (topic : Loose) : Except Response (Server × Nat) :=
  match topic.text?.filter s.hub.has with
  | none => .error (.error 404 ("unknown topic " ++ Text.quotedLoose topic))
  | some name =>
    match s.hub.subscribe name with
    | .ok (hub, place) => .ok ({ s with hub }, place)
    | .error e => .error (.error 503 e.failure.message.shown)

/-- What a request gets: a response, or the events of a subscription. -/
inductive Answer where
  | response (r : Response)
  | events (place : Nat)

/-- The answer to a request with a clean path. -/
def answerRoute (s : Server) (r : Request) : Server × Answer :=
  match Route.of r.method r.address.path with
  | .subscribe topic =>
    match s.subscribe topic with
    | .ok (s, place) => (s, .events place)
    | .error response => (s, .response response)
  | .overview => (s, .response (data s.overview))
  | .graph => (s, .response (data s.graph))
  | .focus => (s, .response (s.focus r.address))
  | .counts => (s, .response (data s.counts))
  | .pair a b => (s, .response (s.pair a b))
  | .coupling => (s, .response (data s.coupling))
  | .file => (s, .response (Site.serve r.method r.address Page.text))

/-- The answer to a request. -/
def answer (s : Server) (r : Request) : Server × Answer :=
  let path := Address.cleanPath r.address.path
  if path = r.address.path then s.answerRoute r
  else (s, .response (.moved { r.address with path }.text))

end Server

end CallCoupling
