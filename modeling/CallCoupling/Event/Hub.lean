import CallCoupling.Event.Topic

/-!
# The hub

A hub has named topics and subscriptions to them.  A subscription is a queue of unread events.  It
starts with the history of its topic and then receives what is published there, in order, as long as it
is registered; an event that finds the queue full is lost to that subscription and to no other.

A subscription that leaves is only taken off the register: what is in its queue can still be read.
Closing the hub ends the registered subscriptions; an ended queue can be read to its end.
-/

set_option autoImplicit false

namespace CallCoupling

/-- A queue of unread events. -/
structure Subscription where
  topic : String
  /-- How many unread events the queue holds. -/
  room : Nat
  queue : List Event := []
  /-- Does the subscription receive events? -/
  registered : Bool := true
  /-- Has the hub ended the queue? -/
  ended : Bool := false
deriving Inhabited

namespace Subscription

/-- Offer an event: it is appended if there is room. -/
def offer (s : Subscription) (e : Event) : Subscription :=
  if s.queue.length < s.room then { s with queue := s.queue ++ [e] } else s

/-- Offer an event that was published on its topic. -/
def receive (s : Subscription) (e : Event) : Subscription :=
  if s.registered && s.topic = e.topic then s.offer e else s

/-- Take the subscription off the register. -/
def leave (s : Subscription) : Subscription := { s with registered := false }

/-- End the queue if the subscription is registered. -/
def finish (s : Subscription) : Subscription :=
  if s.registered then { s with registered := false, ended := true } else s

/-- Read one event, if there is one. -/
def read (s : Subscription) : Subscription × Option Event :=
  ({ s with queue := s.queue.tail }, s.queue.head?)

/-- Read all there is. -/
def drain (s : Subscription) : Subscription × List Event := ({ s with queue := [] }, s.queue)

end Subscription

/-- Topics and subscriptions.  A subscription is named by its place. -/
structure Hub where
  topics : List (String × Topic) := []
  subscriptions : List Subscription := []
  closed : Bool := false
deriving Inhabited

namespace Hub

/-- A hub with topics that have no past. -/
def ofPlans (plans : List (String × Plan)) : Hub :=
  { topics := plans.map fun (name, plan) => (name, { plan }) }

/-- The topic of the progress of runs. -/
def statusTopic : String := "analysis_status"

/-- The topic of finished results. -/
def couplingTopic : String := "coupling"

/-- The plans of an analysis: whoever comes late learns the whole latest run and the latest result. -/
def standardPlans : List (String × Plan) :=
  [(statusTopic, { replay := .run }), (couplingTopic, { replay := .latest })]

/-- The hub of an analysis. -/
def standard : Hub := ofPlans standardPlans

/-- The topic with a name. -/
def topic? (h : Hub) (name : String) : Option Topic := h.topics.lookup name

/-- Is there a topic with the name? -/
def has (h : Hub) (name : String) : Bool := (h.topic? name).isSome

/-- Put a topic in the place of the one with its name. -/
def setTopic (h : Hub) (name : String) (t : Topic) : Hub :=
  { h with topics := h.topics.map fun (n, old) => (n, if n = name then t else old) }

/-- The topic with a name, as long as the hub is open. -/
def openTopic (h : Hub) (name : String) : Except EventError Topic :=
  if h.closed then .error .closed
  else match h.topic? name with
    | none => .error (.unknownTopic name)
    | some t => .ok t

/-- How many subscriptions are registered on a topic. -/
def subscribers (h : Hub) (name : String) : Nat :=
  (h.subscriptions.filter fun s => s.registered && s.topic = name).length

/-- Subscribe to a topic: the new subscription's place, its queue filled with the history. -/
def subscribe (h : Hub) (name : String) : Except EventError (Hub × Nat) := do
  let t ← h.openTopic name
  let s : Subscription := { topic := name, room := t.plan.queueRoom, queue := t.history }
  pure ({ h with subscriptions := h.subscriptions ++ [s] }, h.subscriptions.length)

/-- Publish data on a topic; `none` is data without a JSON form. -/
def publish (h : Hub) (name runId kind : String) (data : Option Json) : Except EventError Hub := do
  let some data := data | throw .unspeakable
  let t ← h.openTopic name
  let e := t.next name runId kind data
  let h := h.setTopic name (t.publish e)
  pure { h with subscriptions := h.subscriptions.map (·.receive e) }

/-- Publish the same data several times. -/
def publishTimes (name runId kind : String) (data : Option Json) : Nat → Hub → Except EventError Hub
  | 0, h => .ok h
  | n + 1, h => do publishTimes name runId kind data n (← h.publish name runId kind data)

/-- Take a subscription off the register. -/
def unsubscribe (h : Hub) (place : Nat) : Hub :=
  { h with subscriptions := h.subscriptions.modify place Subscription.leave }

/-- Read one unread event of a subscription. -/
def read (h : Hub) (place : Nat) : Hub × Option Event :=
  match h.subscriptions[place]? with
  | none => (h, none)
  | some s => ({ h with subscriptions := h.subscriptions.modify place (·.read.1) }, s.read.2)

/-- Read all unread events of a subscription. -/
def drain (h : Hub) (place : Nat) : Hub × List Event :=
  match h.subscriptions[place]? with
  | none => (h, [])
  | some s => ({ h with subscriptions := h.subscriptions.modify place (·.drain.1) }, s.drain.2)

/-- Shut down: nothing is published any more and every registered subscription ends. -/
def close (h : Hub) : Hub :=
  if h.closed then h
  else { h with closed := true, subscriptions := h.subscriptions.map Subscription.finish }

end Hub

/-! ## Runs -/

/-- A call on a hub by a publisher, a subscriber or the owner of the hub. -/
inductive HubStep where
  | publish (name runId kind : String) (data : Option Json)
  | subscribe (name : String)
  | read (place : Nat)
  | unsubscribe (place : Nat)
  | close

/-- What a call on a hub is answered with. -/
inductive HubAnswer where
  | done
  | place (place : Nat)
  | event (e : Option Event)
  | failed (e : EventError)

namespace Hub

/-- The hub after a call, and the answer of the call.  A call that fails leaves the hub as it was. -/
def step (h : Hub) : HubStep → Hub × HubAnswer
  | .publish name runId kind data =>
    match h.publish name runId kind data with
    | .ok h => (h, .done)
    | .error e => (h, .failed e)
  | .subscribe name =>
    match h.subscribe name with
    | .ok (h, place) => (h, .place place)
    | .error e => (h, .failed e)
  | .read place =>
    let (h, e) := h.read place
    (h, .event e)
  | .unsubscribe place => (h.unsubscribe place, .done)
  | .close => (h.close, .done)

/-- The hub after some calls, and the answer of each. -/
def run (h : Hub) : List HubStep → Hub × List HubAnswer
  | [] => (h, [])
  | s :: steps =>
    let (h, answer) := h.step s
    let (h, answers) := h.run steps
    (h, answer :: answers)

end Hub

end CallCoupling
