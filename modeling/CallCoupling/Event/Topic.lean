import CallCoupling.Event.Basic

/-!
# Topics and their history

A topic numbers its events and keeps some of them for those who come late: none, the latest, or those
of the latest run.  Of a run at most `Plan.limit` events are kept, the latest ones.
-/

set_option autoImplicit false

namespace CallCoupling

/-- What a new subscriber is told about the past. -/
inductive Replay where
  | nothing
  /-- The latest event. -/
  | latest
  /-- The events of the latest run. -/
  | run
deriving DecidableEq, Repr, Inhabited

namespace Replay

/-- The replay with a number; an unknown number replays nothing. -/
def ofNumber : Int → Replay
  | 1 => .latest
  | 2 => .run
  | _ => .nothing

end Replay

/-- How a topic treats its past. -/
structure Plan where
  replay : Replay := .nothing
  /-- How many events of a run are kept; a number that is not positive stands for the usual one. -/
  runLimit : Int := 0
deriving DecidableEq, Repr, Inhabited

namespace Plan

/-- How many events of a run are usually kept. -/
def usualLimit : Nat := 32

/-- How many events of a run are kept. -/
def limit (p : Plan) : Nat := if 0 < p.runLimit then p.runLimit.toNat else usualLimit

/-- How many events a subscription holds unread: a full history and some more. -/
def queueRoom (p : Plan) : Nat := p.limit + 16

end Plan

/-- A topic with its past. -/
structure Topic where
  plan : Plan := {}
  /-- How many events were published. -/
  version : Nat := 0
  /-- The run that the history is about. -/
  runId : String := ""
  history : List Event := []
deriving Inhabited

namespace Topic

/-- The last `n` items of a list. -/
def lastItems {α : Type} (n : Nat) (xs : List α) : List α := xs.drop (xs.length - n)

/-- Keep an event in the history as the plan says. -/
def record (t : Topic) (e : Event) : Topic :=
  match t.plan.replay with
  | .nothing => t
  | .latest => { t with runId := e.runId, history := [e] }
  | .run =>
    let before := if e.runId = t.runId then t.history else []
    { t with runId := e.runId, history := lastItems t.plan.limit (before ++ [e]) }

/-- The next event of a topic. -/
def next (t : Topic) (name runId kind : String) (data : Json) : Event :=
  { topic := name, runId, kind, data := data.safe, version := t.version + 1 }

/-- A topic after its next event. -/
def publish (t : Topic) (e : Event) : Topic :=
  { t with version := t.version + 1 }.record e

end Topic

end CallCoupling
