import CallCoupling.Proofs.Event.Delivery

/-!
# The life of subscriptions

Behind the queue of a subscription stands a channel. Nothing may be sent to a channel that has been ended, none may
be ended twice, and a send that finds no room waits. A hub that waits while it hands out a history waits for ever,
since nobody can read yet. `Hub.checkedStep` has the calls with channels that mind: events of a history are sent one
by one, and every misuse is a `ChannelFault`.

> `checked = ok plain`

on every hub that calls lead to. What carries it is one fact about a subscription and its hub (`Hub.Keeps`): who is
registered is in an open hub, and who has been ended is in a closed one. So nobody is both, and closing, the only
call that ends channels, does so once.

Who is registered is then a matter of accounts: `Hub.live` reads it off the calls and their answers alone.

To leave is one step here. A subscription also remembers that its client has left, but that only spares a second
leave the way to the register, where it would change nothing.
-/

set_option autoImplicit false

namespace CallCoupling

/-- What must not happen to a channel. -/
inductive ChannelFault where
  | sentAfterEnd
  | endedTwice
  | waits
deriving DecidableEq, Repr

namespace Subscription

/-- Send an event; it has to find room. -/
def send (s : Subscription) (e : Event) : Except ChannelFault Subscription :=
  if s.ended then .error .sentAfterEnd
  else if s.queue.length < s.room then .ok { s with queue := s.queue ++ [e] }
  else .error .waits

/-- Receive an event; it may find no room. -/
def checkedReceive (e : Event) (s : Subscription) : Except ChannelFault Subscription :=
  if s.registered && s.topic = e.topic then
    if s.ended then .error .sentAfterEnd else .ok (s.offer e)
  else .ok s

def checkedFinish (s : Subscription) : Except ChannelFault Subscription :=
  if s.registered then
    if s.ended then .error .endedTwice else .ok { s with registered := false, ended := true }
  else .ok s

end Subscription

namespace Hub

/-- A call with channels that mind how they are used. -/
def checkedStep (h : Hub) : HubStep → Except ChannelFault (Hub × HubAnswer)
  | .publish _ _ _ none => .ok (h, .failed .unspeakable)
  | .publish name runId kind (some data) =>
    match h.openTopic name with
    | .error e => .ok (h, .failed e)
    | .ok t =>
      let e := t.next name runId kind data
      (h.subscriptions.mapM (Subscription.checkedReceive e)).map fun subscriptions =>
        ({ h.setTopic name (t.publish e) with subscriptions }, .done)
  | .subscribe name =>
    match h.openTopic name with
    | .error e => .ok (h, .failed e)
    | .ok t =>
      (t.history.foldlM Subscription.send { topic := name, room := t.plan.queueRoom }).map fun s =>
        ({ h with subscriptions := h.subscriptions ++ [s] }, .place h.subscriptions.length)
  | .read place =>
    let (h, e) := h.read place
    .ok (h, .event e)
  | .unsubscribe place => .ok (h.unsubscribe place, .done)
  | .close =>
    if h.closed then .ok (h, .done)
    else
      (h.subscriptions.mapM Subscription.checkedFinish).map fun subscriptions =>
        ({ h with closed := true, subscriptions }, .done)

def checkedRun (h : Hub) : List HubStep → Except ChannelFault (Hub × List HubAnswer)
  | [] => .ok (h, [])
  | s :: steps =>
    match h.checkedStep s with
    | .error fault => .error fault
    | .ok (h, answer) => (h.checkedRun steps).map fun (h, answers) => (h, answer :: answers)

end Hub

/-- The place of the subscription to a topic that a call with this answer has made. -/
def HubStep.opened? (name : String) : HubStep → HubAnswer → Option Nat
  | .subscribe topic, .place place => if topic = name then some place else none
  | _, _ => none

/-- **The subscriptions to a topic that have been made and not ended since**, neither by their clients nor with
    the hub. -/
def Hub.live (name : String) : List HubStep → List HubAnswer → List Nat
  | step :: steps, answer :: answers =>
    ((step.opened? name answer).toList.filter fun place => steps.all fun later => !later.ends place) ++
      Hub.live name steps answers
  | _, _ => []

/-- The places of the subscriptions that are registered on a topic. -/
def Hub.places (h : Hub) (name : String) : List Nat :=
  (List.range h.subscriptions.length).filter fun place =>
    (h.subscriptions[place]?).any fun s => s.registered && s.topic = name

/-- At this place the hub has ended a subscription to the topic. -/
def Hub.EndedAt (h : Hub) (name : String) (place : Nat) : Prop :=
  ∃ s, h.subscriptions[place]? = some s ∧ s.topic = name ∧ s.ended = true

/-- Who is registered is in an open hub, and who has been ended is in a closed one. -/
def Hub.Keeps (h : Hub) (s : Subscription) : Prop :=
  (s.registered = true → h.closed = false) ∧ (s.ended = true → h.closed = true)

structure Hub.Orderly (h : Hub) : Prop where
  sound : h.Sound
  keeps : ∀ s ∈ h.subscriptions, h.Keeps s

/-! ## 1. What a call does to a subscription -/

theorem Hub.Keeps.not_registered {h : Hub} {s : Subscription} (hs : h.Keeps s) (hclosed : h.closed = true) :
    s.registered = false := by
  cases hreg : s.registered with
  | false => rfl
  | true =>
    have hopen := hs.1 hreg
    rw [hclosed] at hopen
    cases hopen

theorem Hub.Keeps.not_ended {h : Hub} {s : Subscription} (hs : h.Keeps s) (hopen : h.closed = false) :
    s.ended = false := by
  cases hended : s.ended with
  | false => rfl
  | true =>
    have hclosed := hs.2 hended
    rw [hopen] at hclosed
    cases hclosed

/-- A call appends a subscription, or it makes none. -/
theorem Hub.step_opens (h : Hub) (step : HubStep) :
    (∃ (name : String) (t : Topic), step = .subscribe name ∧ h.closed = false ∧
        h.step step =
          ({ h with subscriptions := h.subscriptions ++
              [{ topic := name, room := t.plan.queueRoom, queue := t.history }] },
            .place h.subscriptions.length)) ∨
      ((h.step step).1.subscriptions.length = h.subscriptions.length ∧
        ∀ name, step.opened? name (h.step step).2 = none) := by
  cases step with
  | publish name runId kind data =>
    right
    rcases h.step_publish name runId kind data with ⟨t, e, -, -, -, -, -, -, hstep⟩ | ⟨_, -, -, hstep⟩
    · rw [hstep]
      exact ⟨List.length_map _, fun _ => rfl⟩
    · rw [hstep]
      exact ⟨rfl, fun _ => rfl⟩
  | subscribe name =>
    rcases h.subscribe_cases name with ⟨t, hopen, -, hstep⟩ | ⟨_, hstep⟩
    · exact Or.inl ⟨name, t, rfl, hopen, hstep⟩
    · rw [hstep]
      exact Or.inr ⟨rfl, fun _ => rfl⟩
  | read p =>
    right
    refine ⟨?_, fun _ => rfl⟩
    cases hp : h.subscriptions[p]? <;> simp [Hub.step, Hub.read, hp]
  | unsubscribe p => exact Or.inr ⟨List.length_modify .., fun _ => rfl⟩
  | close =>
    right
    refine ⟨?_, fun _ => rfl⟩
    cases hclosed : h.closed <;> simp [Hub.step, Hub.close, hclosed]

/-- After a call a subscription is one from before or a new one. -/
theorem Hub.getElem?_of_step {h : Hub} {step : HubStep} {place : Nat} {s' : Subscription}
    (hs' : (h.step step).1.subscriptions[place]? = some s') :
    (∃ s, h.subscriptions[place]? = some s ∧ s' = h.effect place step s) ∨
      (s'.ended = false ∧ (h.step step).1.closed = false) := by
  cases hs : h.subscriptions[place]? with
  | some s =>
    rw [Hub.getElem?_step hs step] at hs'
    exact Or.inl ⟨s, rfl, (Option.some.inj hs').symm⟩
  | none =>
    have hlen : h.subscriptions.length ≤ place := List.getElem?_eq_none_iff.1 hs
    rcases h.step_opens step with ⟨name, t, -, hopen, hstep⟩ | ⟨hsame, -⟩
    · rw [hstep] at hs' ⊢
      rw [List.getElem?_append_right hlen] at hs'
      have hnew := List.mem_singleton.1 (List.mem_of_getElem? hs')
      exact Or.inr ⟨by rw [hnew], hopen⟩
    · rw [List.getElem?_eq_none (hsame.le.trans hlen)] at hs'
      cases hs'

theorem Subscription.ended_receive (s : Subscription) (e : Event) : (s.receive e).ended = s.ended := by
  unfold Subscription.receive Subscription.offer
  split
  · split <;> rfl
  · rfl

/-- Only closing ends a channel, and only one that is registered. -/
theorem Hub.ended_effect (h : Hub) (place : Nat) (step : HubStep) (s : Subscription) :
    (h.effect place step s).ended = true ↔
      s.ended = true ∨ step = .close ∧ h.closed = false ∧ s.registered = true := by
  cases step with
  | publish name runId kind data =>
    unfold Hub.effect
    cases h.published? (.publish name runId kind data) with
    | none => simp
    | some e => simp [s.ended_receive e]
  | subscribe name => simp [Hub.effect]
  | read p => by_cases hp : p = place <;> simp [Hub.effect, Subscription.read, hp]
  | unsubscribe p => by_cases hp : p = place <;> simp [Hub.effect, Subscription.leave, hp]
  | close =>
    cases hclosed : h.closed <;> cases hreg : s.registered <;>
      simp [Hub.effect, Subscription.finish, hclosed, hreg]

/-- **A subscription is registered until a call ends it.** -/
theorem Hub.Keeps.registered_effect {h : Hub} {s : Subscription} (hs : h.Keeps s) (place : Nat)
    (step : HubStep) : (h.effect place step s).registered = (s.registered && !step.ends place) := by
  cases hends : step.ends place with
  | false => rw [Hub.registered_effect hends, Bool.not_false, Bool.and_true]
  | true =>
    rw [Bool.not_true, Bool.and_false]
    cases step with
    | publish name runId kind data => cases hends
    | subscribe name => cases hends
    | read p => cases hends
    | unsubscribe p =>
      have heq : p = place := by simpa [HubStep.ends] using hends
      simp [Hub.effect, heq, Subscription.leave]
    | close =>
      cases hclosed : h.closed with
      | false => simp [Hub.effect, hclosed, s.frame_finish]
      | true => simp [Hub.effect, hclosed, hs.not_registered hclosed]

theorem Hub.Keeps.step {h : Hub} {s : Subscription} (hs : h.Keeps s) (place : Nat) (step : HubStep) :
    (h.step step).1.Keeps (h.effect place step s) := by
  constructor
  · intro hreg
    rw [hs.registered_effect, Bool.and_eq_true, Bool.not_eq_true'] at hreg
    obtain ⟨hreg, hends⟩ := hreg
    rw [Bool.eq_false_iff, Ne, Hub.closed_step_iff]
    rintro (hclosed | rfl)
    · rw [hs.1 hreg] at hclosed
      cases hclosed
    · cases hends
  · intro hended
    rw [Hub.closed_step_iff]
    rcases (h.ended_effect place step s).1 hended with hbefore | ⟨hclose, -⟩
    · exact Or.inl (hs.2 hbefore)
    · exact Or.inr hclose

theorem Hub.orderly_ofPlans (plans : List (String × Plan)) : (Hub.ofPlans plans).Orderly where
  sound := Hub.sound_ofPlans plans
  keeps := nofun

theorem Hub.Orderly.step {h : Hub} (hh : h.Orderly) (step : HubStep) : (h.step step).1.Orderly where
  sound := hh.sound.step step
  keeps s' hs' := by
    obtain ⟨place, hplace⟩ := List.mem_iff_getElem?.1 hs'
    rcases Hub.getElem?_of_step hplace with ⟨s, hs, rfl⟩ | ⟨hended, hopen⟩
    · exact (hh.keeps s (List.mem_of_getElem? hs)).step place step
    · refine ⟨fun _ => hopen, fun h => ?_⟩
      rw [hended] at h
      cases h

theorem Hub.Orderly.run {h : Hub} (hh : h.Orderly) (steps : List HubStep) : (h.run steps).1.Orderly := by
  induction steps generalizing h with
  | nil => exact hh
  | cons step steps ih => exact ih (hh.step step)

/-! ## 2. Channels -/

theorem mapM_eq_ok {ε α β : Type} {l : List α} {f : α → Except ε β} {g : α → β}
    (h : ∀ a ∈ l, f a = .ok (g a)) : l.mapM f = .ok (l.map g) := by
  induction l with
  | nil => rfl
  | cons a l ih =>
    have hrest := ih fun b hb => h b (List.mem_cons_of_mem _ hb)
    simp [List.mapM_cons, h a List.mem_cons_self, hrest, bind, Except.bind, pure, Except.pure]

/-- Events that fit are sent one after the other without waiting. -/
theorem Subscription.foldlM_send {s : Subscription} (hopen : s.ended = false) {events : List Event}
    (hroom : s.queue.length + events.length ≤ s.room) :
    events.foldlM Subscription.send s = .ok { s with queue := s.queue ++ events } := by
  induction events generalizing s with
  | nil => simp [pure, Except.pure]
  | cons e events ih =>
    rw [List.length_cons] at hroom
    have hsend : s.send e = .ok { s with queue := s.queue ++ [e] } := by
      have hfree : s.queue.length < s.room := by omega
      simp [Subscription.send, hopen, hfree]
    have hrest := ih (s := { s with queue := s.queue ++ [e] }) hopen (by simp; omega)
    rw [List.foldlM_cons, hsend]
    show events.foldlM Subscription.send { s with queue := s.queue ++ [e] } = _
    rw [hrest, List.append_assoc]
    rfl

theorem Hub.Keeps.checkedReceive {h : Hub} {s : Subscription} (hs : h.Keeps s) (e : Event) :
    s.checkedReceive e = .ok (s.receive e) := by
  unfold Subscription.checkedReceive Subscription.receive
  cases hreg : s.registered with
  | false => rfl
  | true =>
    rw [hs.not_ended (hs.1 hreg)]
    split <;> rfl

theorem Hub.Keeps.checkedFinish {h : Hub} {s : Subscription} (hs : h.Keeps s) :
    s.checkedFinish = .ok s.finish := by
  unfold Subscription.checkedFinish Subscription.finish
  cases hreg : s.registered with
  | false => rfl
  | true =>
    rw [hs.not_ended (hs.1 hreg)]
    rfl

/-- **On an orderly hub no call misuses a channel.** -/
theorem Hub.Orderly.checkedStep {h : Hub} (hh : h.Orderly) (step : HubStep) :
    h.checkedStep step = .ok (h.step step) := by
  cases step with
  | publish name runId kind data =>
    cases data with
    | none => rfl
    | some data =>
      cases hopen : h.openTopic name with
      | error err =>
        simp only [Hub.checkedStep, Hub.step, Hub.publish, hopen]
        rfl
      | ok t =>
        have hreceive : h.subscriptions.mapM (Subscription.checkedReceive (t.next name runId kind data)) =
            .ok (h.subscriptions.map fun s => s.receive (t.next name runId kind data)) :=
          mapM_eq_ok fun s hs => (hh.keeps s hs).checkedReceive _
        simp only [Hub.checkedStep, Hub.step, Hub.publish, hopen, hreceive]
        rfl
  | subscribe name =>
    cases hopen : h.openTopic name with
    | error err =>
      simp only [Hub.checkedStep, Hub.step, Hub.subscribe, hopen]
      rfl
    | ok t =>
      have hsound := hh.sound name t (Hub.openTopic_eq_ok.1 hopen).2
      have hfits : t.history.length ≤ t.plan.queueRoom :=
        hsound.length_le_limit.trans (Nat.le_add_right _ 16)
      have hsend : t.history.foldlM Subscription.send { topic := name, room := t.plan.queueRoom } =
          .ok { topic := name, room := t.plan.queueRoom, queue := t.history } :=
        Subscription.foldlM_send rfl (by simpa using hfits)
      simp only [Hub.checkedStep, Hub.step, Hub.subscribe, hopen, hsend]
      rfl
  | read place => rfl
  | unsubscribe place => rfl
  | close =>
    unfold Hub.checkedStep Hub.step Hub.close
    rw [mapM_eq_ok fun s hs => (hh.keeps s hs).checkedFinish]
    cases h.closed <;> rfl

theorem Hub.Orderly.checkedRun {h : Hub} (hh : h.Orderly) (steps : List HubStep) :
    h.checkedRun steps = .ok (h.run steps) := by
  induction steps generalizing h with
  | nil => rfl
  | cons step steps ih =>
    unfold Hub.checkedRun
    rw [hh.checkedStep]
    show ((h.step step).1.checkedRun steps).map _ = _
    rw [ih (hh.step step)]
    rfl

/-! ## 3. Who is subscribed -/

theorem Hub.mem_places {h : Hub} {name : String} {place : Nat} :
    place ∈ h.places name ↔
      ∃ s, h.subscriptions[place]? = some s ∧ s.registered = true ∧ s.topic = name := by
  unfold Hub.places
  rw [List.mem_filter, List.mem_range]
  constructor
  · rintro ⟨-, hany⟩
    simpa [Option.any_eq_true] using hany
  · rintro ⟨s, hs, hreg, htopic⟩
    exact ⟨(List.getElem?_eq_some_iff.1 hs).1, by simp [hs, hreg, htopic]⟩

theorem length_filter_range {α : Type} (l : List α) (f : α → Bool) :
    ((List.range l.length).filter fun i => (l[i]?).any f).length = (l.filter f).length := by
  induction l using List.reverseRecOn with
  | nil => rfl
  | append_singleton l a ih =>
    have hold : (List.range l.length).filter (fun i => ((l ++ [a])[i]?).any f) =
        (List.range l.length).filter fun i => (l[i]?).any f := by
      apply List.filter_congr
      intro i hi
      rw [List.getElem?_append_left (List.mem_range.1 hi)]
    rw [List.length_append, List.length_singleton, List.range_succ, List.filter_append, List.filter_append,
      List.length_append, List.length_append, hold, ih]
    cases hf : f a <;> simp [hf]

theorem Hub.subscribers_eq_length (h : Hub) (name : String) : h.subscribers name = (h.places name).length :=
  (length_filter_range h.subscriptions fun s => s.registered && s.topic = name).symm

theorem Hub.nodup_places (h : Hub) (name : String) : (h.places name).Nodup :=
  List.nodup_range.filter _

/-- **A call takes the subscriptions it ends off the register and puts the one it makes there.** -/
theorem Hub.Orderly.places_step {h : Hub} (hh : h.Orderly) (step : HubStep) (name : String) :
    (h.step step).1.places name =
      ((h.places name).filter fun place => !step.ends place) ++
        (step.opened? name (h.step step).2).toList := by
  -- First the subscriptions from before; they keep their places.
  have hold : (List.range h.subscriptions.length).filter (fun place =>
      ((h.step step).1.subscriptions[place]?).any fun s => s.registered && s.topic = name) =
        (h.places name).filter fun place => !step.ends place := by
    unfold Hub.places
    rw [List.filter_filter]
    apply List.filter_congr
    intro place hplace
    have hs := List.getElem?_eq_getElem (List.mem_range.1 hplace)
    have hkeeps := hh.keeps _ (List.mem_of_getElem? hs)
    rw [Hub.getElem?_step hs step, hs, Option.any_some, Option.any_some, hkeeps.registered_effect,
      (h.frame_effect place step _).1]
    rw [Bool.and_right_comm, Bool.and_comm]
  rcases h.step_opens step with ⟨topic, t, hstep, -, hopened⟩ | ⟨hsame, hnone⟩
  · have hlength : (h.step step).1.subscriptions.length = h.subscriptions.length + 1 := by
      rw [hopened]
      simp
    unfold Hub.places at hold ⊢
    rw [hlength, List.range_succ, List.filter_append, hold, hopened, hstep]
    by_cases htopic : topic = name <;> simp [HubStep.opened?, htopic]
  · rw [hnone, Option.toList_none, List.append_nil, ← hold, ← hsame]
    rfl

/-- **Who is registered can be read off the calls and their answers.** -/
theorem Hub.Orderly.places_run {h : Hub} (hh : h.Orderly) (steps : List HubStep) (name : String) :
    (h.run steps).1.places name =
      ((h.places name).filter fun place => steps.all fun later => !later.ends place) ++
        Hub.live name steps (h.run steps).2 := by
  induction steps generalizing h with
  | nil => simp [Hub.run, Hub.live]
  | cons step steps ih =>
    show ((h.step step).1.run steps).1.places name =
      _ ++ ((step.opened? name (h.step step).2).toList.filter _ ++ Hub.live name steps _)
    rw [ih (hh.step step), hh.places_step, List.filter_append, List.filter_filter, List.append_assoc]
    congr 1
    apply List.filter_congr
    intro place _
    rw [List.all_cons, Bool.and_comm]

theorem Hub.places_ofPlans_run (plans : List (String × Plan)) (steps : List HubStep) (name : String) :
    ((Hub.ofPlans plans).run steps).1.places name =
      Hub.live name steps ((Hub.ofPlans plans).run steps).2 :=
  (Hub.orderly_ofPlans plans).places_run steps name

/-! ## 4. After the hub has closed -/

theorem Hub.run_append (h : Hub) (before after : List HubStep) :
    (h.run (before ++ after)).1 = ((h.run before).1.run after).1 := by
  induction before generalizing h with
  | nil => rfl
  | cons step before ih => exact ih (h.step step).1

theorem Hub.closed_run_iff (h : Hub) (steps : List HubStep) :
    (h.run steps).1.closed = true ↔ h.closed = true ∨ .close ∈ steps := by
  induction steps generalizing h with
  | nil => simp [Hub.run]
  | cons step steps ih =>
    show ((h.step step).1.run steps).1.closed = true ↔ _
    rw [ih, Hub.closed_step_iff, List.mem_cons, or_assoc, @eq_comm _ HubStep.close]

theorem Hub.closed_ofPlans_run (plans : List (String × Plan)) (steps : List HubStep) :
    ((Hub.ofPlans plans).run steps).1.closed = true ↔ .close ∈ steps := by
  rw [Hub.closed_run_iff]
  simp [Hub.ofPlans]

theorem Hub.step_publish_of_closed {h : Hub} (hclosed : h.closed = true) (name runId kind : String)
    (data : Json) : h.step (.publish name runId kind (some data)) = (h, .failed .closed) := by
  simp [Hub.step, Hub.publish, Hub.openTopic, hclosed, bind, Except.bind]

theorem Hub.step_subscribe_of_closed {h : Hub} (hclosed : h.closed = true) (name : String) :
    h.step (.subscribe name) = (h, .failed .closed) := by
  simp [Hub.step, Hub.subscribe, Hub.openTopic, hclosed, bind, Except.bind]

theorem Hub.Orderly.subscribers_of_closed {h : Hub} (hh : h.Orderly) (hclosed : h.closed = true)
    (name : String) : h.subscribers name = 0 := by
  rw [Hub.subscribers_eq_length, List.length_eq_zero_iff, List.eq_nil_iff_forall_not_mem]
  intro place hplace
  obtain ⟨s, hs, hreg, -⟩ := Hub.mem_places.1 hplace
  rw [(hh.keeps s (List.mem_of_getElem? hs)).not_registered hclosed] at hreg
  cases hreg

/-- **Closing an open hub ends the channels that are registered**, and nothing else ends one. -/
theorem Hub.endedAt_step (h : Hub) (step : HubStep) (name : String) (place : Nat) :
    (h.step step).1.EndedAt name place ↔
      h.EndedAt name place ∨ step = .close ∧ h.closed = false ∧ place ∈ h.places name := by
  constructor
  · rintro ⟨s', hs', htopic, hended⟩
    rcases Hub.getElem?_of_step hs' with ⟨s, hs, rfl⟩ | ⟨hnew, -⟩
    · rw [(h.frame_effect place step s).1] at htopic
      rcases (h.ended_effect place step s).1 hended with hbefore | ⟨hclose, hopen, hreg⟩
      · exact Or.inl ⟨s, hs, htopic, hbefore⟩
      · exact Or.inr ⟨hclose, hopen, Hub.mem_places.2 ⟨s, hs, hreg, htopic⟩⟩
    · rw [hnew] at hended
      cases hended
  · rintro (⟨s, hs, htopic, hended⟩ | ⟨hclose, hopen, hplace⟩)
    · refine ⟨_, Hub.getElem?_step hs step, ?_, ?_⟩
      · rw [(h.frame_effect place step s).1, htopic]
      · exact (h.ended_effect place step s).2 (Or.inl hended)
    · obtain ⟨s, hs, hreg, htopic⟩ := Hub.mem_places.1 hplace
      refine ⟨_, Hub.getElem?_step hs step, ?_, ?_⟩
      · rw [(h.frame_effect place step s).1, htopic]
      · exact (h.ended_effect place step s).2 (Or.inr ⟨hclose, hopen, hreg⟩)

theorem Hub.endedAt_run_of_closed {h : Hub} (hclosed : h.closed = true) (steps : List HubStep)
    (name : String) (place : Nat) : (h.run steps).1.EndedAt name place ↔ h.EndedAt name place := by
  induction steps generalizing h with
  | nil => rfl
  | cons step steps ih =>
    show ((h.step step).1.run steps).1.EndedAt name place ↔ _
    rw [ih (Hub.closed_step hclosed step), Hub.endedAt_step]
    simp [hclosed]

theorem Hub.Orderly.not_endedAt {h : Hub} (hh : h.Orderly) (hopen : h.closed = false) (name : String)
    (place : Nat) : ¬ h.EndedAt name place := by
  rintro ⟨s, hs, -, hended⟩
  rw [(hh.keeps s (List.mem_of_getElem? hs)).not_ended hopen] at hended
  cases hended

/-- **A hub lives and closes without misusing a channel**, whatever is called on it and in whatever order. No
    call faults, and a history is shorter than the queue that it is put into. The subscribers of a topic are
    those that have subscribed and not ended since. Once the hub has closed it takes neither news nor
    subscribers, and the channels that have been ended are those of the subscribers that it had when it closed
    for the first time. -/
theorem Hub.life_cycle (plans : List (String × Plan)) (steps : List HubStep) :
    let start := Hub.ofPlans plans
    let h := (start.run steps).1
    start.checkedRun steps = .ok (start.run steps) ∧
      (∀ name t, h.topic? name = some t →
        t.history.length ≤ t.plan.limit ∧ t.plan.queueRoom = t.plan.limit + 16) ∧
      (∀ name, h.subscribers name = (Hub.live name steps (start.run steps).2).length ∧
        (Hub.live name steps (start.run steps).2).Nodup) ∧
      (.close ∈ steps →
        (∀ name runId kind data, h.step (.publish name runId kind (some data)) = (h, .failed .closed)) ∧
          (∀ name, h.step (.subscribe name) = (h, .failed .closed)) ∧ ∀ name, h.subscribers name = 0) ∧
      (.close ∉ steps → ∀ name place, ¬ h.EndedAt name place) ∧
      ∀ before after, steps = before ++ .close :: after → .close ∉ before →
        ∀ name place, h.EndedAt name place ↔ place ∈ Hub.live name before (start.run before).2 := by
  intro start h
  have hstart : start.Orderly := Hub.orderly_ofPlans plans
  have hh : h.Orderly := hstart.run steps
  refine ⟨hstart.checkedRun steps, fun name t ht => ⟨(hh.sound name t ht).length_le_limit, rfl⟩, ?_, ?_, ?_, ?_⟩
  · intro name
    rw [← Hub.places_ofPlans_run]
    exact ⟨h.subscribers_eq_length name, h.nodup_places name⟩
  · intro hclose
    have hclosed : h.closed = true := (Hub.closed_ofPlans_run plans steps).2 hclose
    exact ⟨Hub.step_publish_of_closed hclosed, Hub.step_subscribe_of_closed hclosed,
      hh.subscribers_of_closed hclosed⟩
  · intro hnone
    have hopen : h.closed = false := by
      rw [Bool.eq_false_iff, Ne, Hub.closed_ofPlans_run]
      exact hnone
    exact hh.not_endedAt hopen
  · rintro before after rfl hbefore name place
    have hopen : (start.run before).1.closed = false := by
      rw [Bool.eq_false_iff, Ne, Hub.closed_ofPlans_run]
      exact hbefore
    have hclosed : ((start.run before).1.step .close).1.closed = true :=
      (Hub.closed_step_iff _ _).2 (Or.inr rfl)
    show (start.run (before ++ .close :: after)).1.EndedAt name place ↔ _
    rw [Hub.run_append]
    show (((start.run before).1.step .close).1.run after).1.EndedAt name place ↔ _
    rw [Hub.endedAt_run_of_closed hclosed, Hub.endedAt_step, ← Hub.places_ofPlans_run]
    have hnone := (hstart.run before).not_endedAt hopen name place
    simp only [hnone, hopen, true_and, false_or]
    rfl

end CallCoupling
