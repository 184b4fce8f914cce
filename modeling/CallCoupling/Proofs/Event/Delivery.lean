import CallCoupling.Proofs.Event.History

/-!
# What reaches a subscriber

A subscription's queue is filled from two sides, the history of its topic when it is made and the events
published while it is registered, and emptied by its reader at any time in between. `Hub.arrivals` lists what
is published on its topic until it leaves, each event with the number of unread events that it finds; the
main result (`Hub.delivers`) is that the queue is given the history, followed by exactly those arrivals that
find room. It holds over any run, with any number of other publishers, subscribers and readers, because a
call touches the queue in one of two ways only (`Hub.entered_step`): it takes an event from its front, or it
appends the one that arrives.

What enters is therefore a sublist of the history followed by *all* arrivals, and these have consecutive
versions (`Hub.numbered_arrivals`). Order, the absence of repeats and the absence of gaps are read off that
list.

Publishing is one step here. A reader may in truth read while an event is being handed round, but whether it
does so before or after its own queue is served is all that its queue can show.
-/

set_option autoImplicit false

namespace CallCoupling

/-! ## 1. What a call publishes -/

/-- The event that a call publishes, if it succeeds. -/
def Hub.published? (h : Hub) : HubStep → Option Event
  | .publish name runId kind (some data) =>
    (h.openTopic name).toOption.map fun t => t.next name runId kind data
  | _ => none

theorem Hub.topic?_setTopic (h : Hub) (name : String) (t : Topic) (other : String) :
    (h.setTopic name t).topic? other =
      if other = name then (h.topic? other).map fun _ => t else h.topic? other := by
  unfold Hub.setTopic Hub.topic?
  induction h.topics with
  | nil => simp
  | cons entry topics ih =>
    obtain ⟨n, old⟩ := entry
    rw [List.map_cons, List.lookup_cons, List.lookup_cons]
    by_cases hn : other = n
    · subst hn
      by_cases hname : other = name
      · simp [hname]
      · simp [hname]
    · have hbeq : (other == n) = false := by simpa using hn
      simp only [hbeq]
      exact ih

theorem Hub.openTopic_eq_ok {h : Hub} {name : String} {t : Topic} :
    h.openTopic name = .ok t ↔ h.closed = false ∧ h.topic? name = some t := by
  unfold Hub.openTopic
  cases h.closed with
  | true => simp
  | false => cases h.topic? name <;> simp

/-- **Publishing fails without a trace, or numbers the event, records it and offers it.** -/
theorem Hub.step_publish (h : Hub) (name runId kind : String) (data : Option Json) :
    (∃ (t : Topic) (e : Event), h.closed = false ∧ h.topic? name = some t ∧ data.isSome ∧ e.topic = name ∧
        e.version = t.version + 1 ∧ h.published? (.publish name runId kind data) = some e ∧
        h.step (.publish name runId kind data) =
          ({ h.setTopic name (t.publish e) with subscriptions := h.subscriptions.map (·.receive e) },
            .done)) ∨
      (∃ err, (data = none ∨ h.closed = true ∨ h.topic? name = none) ∧
        h.published? (.publish name runId kind data) = none ∧
        h.step (.publish name runId kind data) = (h, .failed err)) := by
  cases data with
  | none => exact Or.inr ⟨.unspeakable, Or.inl rfl, rfl, rfl⟩
  | some d =>
    cases hopen : h.openTopic name with
    | error err =>
      refine Or.inr ⟨err, Or.inr ?_, ?_, ?_⟩
      · cases hclosed : h.closed with
        | true => exact Or.inl rfl
        | false =>
          cases ht : h.topic? name with
          | none => exact Or.inr rfl
          | some t => rw [Hub.openTopic_eq_ok.mpr ⟨hclosed, ht⟩] at hopen; cases hopen
      · simp [Hub.published?, hopen, Except.toOption]
      · simp [Hub.step, Hub.publish, hopen, bind, Except.bind]
    | ok t =>
      obtain ⟨hclosed, ht⟩ := Hub.openTopic_eq_ok.mp hopen
      refine Or.inl ⟨t, t.next name runId kind d, hclosed, ht, rfl, rfl, rfl, ?_, ?_⟩
      · simp [Hub.published?, hopen, Except.toOption]
      · simp [Hub.step, Hub.publish, hopen, bind, Except.bind, pure, Except.pure, Hub.setTopic]

/-- **Subscribing fails without a trace, or appends a queue with the history.** -/
theorem Hub.subscribe_cases (h : Hub) (name : String) :
    (∃ t : Topic, h.closed = false ∧ h.topic? name = some t ∧
        h.step (.subscribe name) =
          ({ h with subscriptions := h.subscriptions ++
              [{ topic := name, room := t.plan.queueRoom, queue := t.history }] },
            .place h.subscriptions.length)) ∨
      ∃ err, h.step (.subscribe name) = (h, .failed err) := by
  cases hopen : h.openTopic name with
  | error err => exact Or.inr ⟨err, by simp [Hub.step, Hub.subscribe, hopen, bind, Except.bind]⟩
  | ok t =>
    obtain ⟨hclosed, ht⟩ := Hub.openTopic_eq_ok.mp hopen
    refine Or.inl ⟨t, hclosed, ht, ?_⟩
    simp [Hub.step, Hub.subscribe, hopen, bind, Except.bind, pure, Except.pure]

/-- A published event is the next one of its topic, and the hub is open. -/
theorem Hub.published?_eq_some {h : Hub} {step : HubStep} {e : Event}
    (he : h.published? step = some e) :
    h.closed = false ∧ ∃ t, h.topic? e.topic = some t ∧ e.version = t.version + 1 := by
  cases step with
  | publish name runId kind data =>
    rcases h.step_publish name runId kind data with
      ⟨t, e', hclosed, ht, -, htopic, hversion, he', -⟩ | ⟨_, -, hnone, -⟩
    · cases he.symm.trans he'
      exact ⟨hclosed, t, htopic ▸ ht, hversion⟩
    · rw [hnone] at he
      cases he
  | subscribe name => cases he
  | read place => cases he
  | unsubscribe place => cases he
  | close => cases he

/-! ## 2. Topics in a run -/

/-- A call changes the topic on which it publishes, and no other. -/
theorem Hub.topic?_step (h : Hub) (step : HubStep) (name : String) :
    (h.step step).1.topic? name =
      match h.published? step with
      | some e => if e.topic = name then (h.topic? name).map (·.publish e) else h.topic? name
      | none => h.topic? name := by
  cases step with
  | publish topic runId kind data =>
    rcases h.step_publish topic runId kind data with
      ⟨t, e, -, ht, -, htopic, -, he, hstep⟩ | ⟨_, -, hnone, hstep⟩
    · rw [he, hstep]
      show (h.setTopic topic (t.publish e)).topic? name =
        if e.topic = name then (h.topic? name).map (·.publish e) else h.topic? name
      rw [Hub.topic?_setTopic, htopic]
      by_cases hname : name = topic
      · subst hname
        simp [ht]
      · simp [hname, Ne.symm hname]
    · rw [hnone, hstep]
  | subscribe topic =>
    rcases h.subscribe_cases topic with ⟨t, -, -, hstep⟩ | ⟨_, hstep⟩
    · rw [hstep]
      rfl
    · rw [hstep]
      rfl
  | read place =>
    cases hs : h.subscriptions[place]? <;> simp [Hub.step, Hub.read, Hub.published?, hs, Hub.topic?]
  | unsubscribe place => rfl
  | close =>
    cases hclosed : h.closed <;> simp [Hub.step, Hub.close, Hub.published?, hclosed, Hub.topic?]

/-- **The histories of all topics are sound.** -/
def Hub.Sound (h : Hub) : Prop := ∀ name t, h.topic? name = some t → t.Sound name

theorem Hub.topic?_ofPlans (plans : List (String × Plan)) (name : String) :
    (Hub.ofPlans plans).topic? name = (plans.lookup name).map fun plan => { plan } := by
  unfold Hub.ofPlans Hub.topic?
  induction plans with
  | nil => rfl
  | cons entry plans ih =>
    obtain ⟨n, plan⟩ := entry
    rw [List.map_cons, List.lookup_cons, List.lookup_cons]
    cases hn : name == n with
    | true => rfl
    | false => exact ih

theorem Hub.sound_ofPlans (plans : List (String × Plan)) : (Hub.ofPlans plans).Sound := by
  intro name t ht
  rw [Hub.topic?_ofPlans] at ht
  obtain ⟨plan, -, rfl⟩ := Option.map_eq_some_iff.1 ht
  exact Topic.sound_new name plan

theorem Hub.Sound.step {h : Hub} (hh : h.Sound) (step : HubStep) : (h.step step).1.Sound := by
  intro name t ht
  rw [Hub.topic?_step] at ht
  cases he : h.published? step with
  | none =>
    rw [he] at ht
    exact hh name t ht
  | some e =>
    rw [he] at ht
    by_cases htopic : e.topic = name
    · obtain ⟨-, told, htold, hversion⟩ := Hub.published?_eq_some he
      rw [htopic] at htold
      have ht' : told.publish e = t := by simpa [htopic, htold] using ht
      exact ht' ▸ (hh name told htold).publish htopic hversion
    · exact hh name t (by simpa [htopic] using ht)

theorem Hub.Sound.run {h : Hub} (hh : h.Sound) (steps : List HubStep) : (h.run steps).1.Sound := by
  induction steps generalizing h with
  | nil => exact hh
  | cons step steps ih => exact ih (hh.step step)

/-! ## 3. One subscription in a run -/

/-- What a call does to the subscription at a place. -/
def Hub.effect (h : Hub) (place : Nat) (step : HubStep) (s : Subscription) : Subscription :=
  match step with
  | .publish .. =>
    match h.published? step with
    | some e => s.receive e
    | none => s
  | .subscribe _ => s
  | .read p => if p = place then s.read.1 else s
  | .unsubscribe p => if p = place then s.leave else s
  | .close => if h.closed then s else s.finish

theorem Hub.getElem?_step {h : Hub} {place : Nat} {s : Subscription}
    (hs : h.subscriptions[place]? = some s) (step : HubStep) :
    (h.step step).1.subscriptions[place]? = some (h.effect place step s) := by
  cases step with
  | publish name runId kind data =>
    unfold Hub.effect
    rcases h.step_publish name runId kind data with
      ⟨t, e, -, -, -, -, -, he, hstep⟩ | ⟨_, -, hnone, hstep⟩
    · simp [he, hstep, hs]
    · simp [hnone, hstep, hs]
  | subscribe name =>
    -- A new subscription is appended, so the others keep their places.
    have hlt : place < h.subscriptions.length := (List.getElem?_eq_some_iff.mp hs).1
    rcases h.subscribe_cases name with ⟨t, -, -, hstep⟩ | ⟨_, hstep⟩
    · rw [hstep, List.getElem?_append_left hlt]
      exact hs
    · rw [hstep]
      exact hs
  | read p =>
    unfold Hub.effect
    cases hp : h.subscriptions[p]? with
    | none =>
      have hne : p ≠ place := by
        rintro rfl
        rw [hs] at hp
        cases hp
      simp [Hub.step, Hub.read, hp, hs, hne]
    | some other =>
      by_cases hne : p = place
      · simp [Hub.step, Hub.read, hs, hne]
      · simp [Hub.step, Hub.read, hp, hs, hne]
  | unsubscribe p =>
    by_cases hne : p = place
    · simp [Hub.step, Hub.unsubscribe, Hub.effect, hs, hne]
    · simp [Hub.step, Hub.unsubscribe, Hub.effect, hs, hne]
  | close => cases hclosed : h.closed <;> simp [Hub.step, Hub.close, Hub.effect, hclosed, hs]

theorem Subscription.frame_receive (s : Subscription) (e : Event) :
    (s.receive e).topic = s.topic ∧ (s.receive e).room = s.room ∧
      (s.receive e).registered = s.registered := by
  unfold Subscription.receive Subscription.offer
  repeat' split
  all_goals exact ⟨rfl, rfl, rfl⟩

theorem Subscription.frame_finish (s : Subscription) :
    s.finish.topic = s.topic ∧ s.finish.room = s.room ∧ s.finish.registered = false := by
  unfold Subscription.finish
  cases hreg : s.registered with
  | true => exact ⟨rfl, rfl, rfl⟩
  | false => exact ⟨rfl, rfl, hreg⟩

/-- No call moves a subscription to another topic or changes the size of its queue. -/
theorem Hub.frame_effect (h : Hub) (place : Nat) (step : HubStep) (s : Subscription) :
    (h.effect place step s).topic = s.topic ∧ (h.effect place step s).room = s.room := by
  cases step with
  | publish name runId kind data =>
    unfold Hub.effect
    cases h.published? (.publish name runId kind data) with
    | none => exact ⟨rfl, rfl⟩
    | some e => exact ⟨(s.frame_receive e).1, (s.frame_receive e).2.1⟩
  | subscribe name => exact ⟨rfl, rfl⟩
  | read p => by_cases hp : p = place <;> simp [Hub.effect, Subscription.read, hp]
  | unsubscribe p => by_cases hp : p = place <;> simp [Hub.effect, Subscription.leave, hp]
  | close => cases hclosed : h.closed <;> simp [Hub.effect, s.frame_finish, hclosed]

/-- Does the call take the subscription at a place off the register? -/
def HubStep.ends (place : Nat) : HubStep → Bool
  | .unsubscribe p => p = place
  | .close => true
  | _ => false

theorem Hub.registered_effect {h : Hub} {place : Nat} {step : HubStep} (hends : step.ends place = false)
    (s : Subscription) : (h.effect place step s).registered = s.registered := by
  cases step with
  | publish name runId kind data =>
    unfold Hub.effect
    cases h.published? (.publish name runId kind data) with
    | none => rfl
    | some e => exact (s.frame_receive e).2.2
  | subscribe name => rfl
  | read p => by_cases hp : p = place <;> simp [Hub.effect, Subscription.read, hp]
  | unsubscribe p =>
    have hne : p ≠ place := by simpa [HubStep.ends] using hends
    simp [Hub.effect, hne]
  | close => cases hends

/-- A subscription that is not registered, or in a closed hub, is out of reach of publishers. -/
def Hub.OutOfReach (h : Hub) (s : Subscription) : Prop := s.registered = false ∨ h.closed = true

theorem Hub.closed_step_iff (h : Hub) (step : HubStep) :
    (h.step step).1.closed = true ↔ h.closed = true ∨ step = .close := by
  cases step with
  | publish name runId kind data =>
    rcases h.step_publish name runId kind data with ⟨t, e, -, -, -, -, -, -, hstep⟩ | ⟨_, -, -, hstep⟩
    · simp [hstep, Hub.setTopic]
    · simp [hstep]
  | subscribe name =>
    rcases h.subscribe_cases name with ⟨t, -, -, hstep⟩ | ⟨_, hstep⟩
    · simp [hstep]
    · simp [hstep]
  | read p => cases hp : h.subscriptions[p]? <;> simp [Hub.step, Hub.read, hp]
  | unsubscribe p => simp [Hub.step, Hub.unsubscribe]
  | close => cases hclosed : h.closed <;> simp [Hub.step, Hub.close, hclosed]

theorem Hub.closed_step {h : Hub} (hclosed : h.closed = true) (step : HubStep) :
    (h.step step).1.closed = true := (h.closed_step_iff step).2 (Or.inl hclosed)

/-- A call that ends a subscription puts it out of reach. -/
theorem Hub.outOfReach_of_ends {h : Hub} {place : Nat} {step : HubStep} (hends : step.ends place = true)
    (s : Subscription) : (h.step step).1.OutOfReach (h.effect place step s) := by
  cases step with
  | publish name runId kind data => cases hends
  | subscribe name => cases hends
  | read p => cases hends
  | unsubscribe p =>
    have heq : p = place := by simpa [HubStep.ends] using hends
    exact Or.inl (by simp [Hub.effect, heq, Subscription.leave])
  | close =>
    refine Or.inr ?_
    cases hclosed : h.closed <;> simp [Hub.step, Hub.close, hclosed]

theorem Hub.OutOfReach.step {h : Hub} {s : Subscription} (hs : h.OutOfReach s) (place : Nat)
    (step : HubStep) : (h.step step).1.OutOfReach (h.effect place step s) := by
  cases hends : step.ends place with
  | true => exact Hub.outOfReach_of_ends hends s
  | false =>
    rcases hs with hleft | hclosed
    · exact Or.inl (by rw [Hub.registered_effect hends, hleft])
    · exact Or.inr (Hub.closed_step hclosed step)

/-! ## 4. What enters a queue -/

/-- The event that a call reads from the subscription at a place. -/
def HubStep.readFrom (place : Nat) : HubStep → HubAnswer → Option Event
  | .read p, .event e => if p = place then e else none
  | _, _ => none

/-- What is read from the subscription at a place in a run, in order. -/
def Hub.reads (h : Hub) (place : Nat) (steps : List HubStep) : List Event :=
  (steps.zip (h.run steps).2).filterMap fun (step, answer) => step.readFrom place answer

/-- What can still be read from the subscription at a place. -/
def Hub.unread (h : Hub) (place : Nat) : List Event :=
  ((h.subscriptions[place]?).map Subscription.queue).getD []

/-- What enters the queue of the subscription at a place up to the end of a run: what is read from it and
    what is still in it. -/
def Hub.entered (h : Hub) (place : Nat) (steps : List HubStep) : List Event :=
  h.reads place steps ++ (h.run steps).1.unread place

/-- The events that are published on a topic until the subscription at a place leaves or the hub closes, each
    with the number of unread events that it finds in the subscription's queue. -/
def Hub.arrivals (topic : String) (place : Nat) : Hub → List HubStep → List (Event × Nat)
  | _, [] => []
  | h, step :: steps =>
    if step.ends place then []
    else
      match (h.published? step).filter (·.topic = topic) with
      | some e => (e, (h.unread place).length) :: Hub.arrivals topic place (h.step step).1 steps
      | none => Hub.arrivals topic place (h.step step).1 steps

theorem Hub.reads_cons (h : Hub) (place : Nat) (step : HubStep) (steps : List HubStep) :
    h.reads place (step :: steps) =
      (step.readFrom place (h.step step).2).toList ++ (h.step step).1.reads place steps := by
  unfold Hub.reads
  rw [Hub.run, List.zip_cons_cons, List.filterMap_cons]
  cases hread : step.readFrom place (h.step step).2 <;> simp [hread]

theorem Hub.entered_cons (h : Hub) (place : Nat) (step : HubStep) (steps : List HubStep) :
    h.entered place (step :: steps) =
      (step.readFrom place (h.step step).2).toList ++ (h.step step).1.entered place steps := by
  unfold Hub.entered
  rw [Hub.reads_cons, List.append_assoc]
  rfl

/-- **One call takes an event from the front of a queue or appends the one that arrives**, if the
    subscription is registered and there is room. -/
theorem Hub.entered_step {h : Hub} {place : Nat} {s : Subscription}
    (hs : h.subscriptions[place]? = some s) (step : HubStep) :
    (step.readFrom place (h.step step).2).toList ++ (h.effect place step s).queue =
      s.queue ++ (((h.published? step).filter (·.topic = s.topic)).filter fun _ =>
        s.registered && decide (s.queue.length < s.room)).toList := by
  cases step with
  | publish name runId kind data =>
    unfold Hub.effect
    cases he : h.published? (.publish name runId kind data) with
    | none => simp [HubStep.readFrom]
    | some e =>
      by_cases htopic : e.topic = s.topic
      · by_cases hroom : s.queue.length < s.room <;> cases hreg : s.registered <;>
          simp [HubStep.readFrom, Subscription.receive, Subscription.offer, htopic, hroom, hreg,
            Option.filter]
      · have htopic' : s.topic ≠ e.topic := Ne.symm htopic
        simp [HubStep.readFrom, Subscription.receive, htopic, htopic', Option.filter]
  | subscribe name => simp [HubStep.readFrom, Hub.effect, Hub.published?]
  | read p =>
    by_cases hp : p = place
    · subst hp
      cases hq : s.queue <;>
        simp [HubStep.readFrom, Hub.effect, Hub.published?, Hub.step, Hub.read, hs,
          Subscription.read, hq]
    · simp [HubStep.readFrom, Hub.effect, Hub.published?, Hub.step, hp]
  | unsubscribe p =>
    by_cases hp : p = place <;>
      simp [HubStep.readFrom, Hub.effect, Hub.published?, Subscription.leave, hp]
  | close =>
    cases hclosed : h.closed <;> cases hreg : s.registered <;>
      simp [HubStep.readFrom, Hub.effect, Hub.published?, Subscription.finish, hclosed, hreg]

/-- What is out of reach of publishers only loses events to its reader. -/
theorem Hub.OutOfReach.entered {h : Hub} {place : Nat} {s : Subscription} (hout : h.OutOfReach s)
    (hs : h.subscriptions[place]? = some s) (steps : List HubStep) :
    h.entered place steps = s.queue := by
  induction steps generalizing h s with
  | nil => simp [Hub.entered, Hub.reads, Hub.run, Hub.unread, hs]
  | cons step steps ih =>
    rw [Hub.entered_cons, ih (hout.step place step) (Hub.getElem?_step hs step), Hub.entered_step hs]
    -- Nothing arrives: a closed hub publishes nothing, and elsewhere the subscription is not registered.
    rcases hout with hleft | hclosed
    · simp [hleft]
    · cases he : h.published? step with
      | none => simp
      | some e =>
        have hopen := (Hub.published?_eq_some he).1
        rw [hclosed] at hopen
        cases hopen

/-- **A registered subscription gets every arrival that finds room.** -/
theorem Hub.entered_eq {h : Hub} {place : Nat} {s : Subscription}
    (hs : h.subscriptions[place]? = some s) (hreg : s.registered = true) (steps : List HubStep) :
    h.entered place steps =
      s.queue ++ ((Hub.arrivals s.topic place h steps).filter (·.2 < s.room)).map Prod.fst := by
  induction steps generalizing h s with
  | nil => simp [Hub.entered, Hub.reads, Hub.run, Hub.unread, Hub.arrivals, hs]
  | cons step steps ih =>
    have hs' := Hub.getElem?_step hs step
    rw [Hub.entered_cons]
    cases hends : step.ends place with
    | true =>
      -- The last that happens to the queue; such a call publishes nothing.
      rw [(Hub.outOfReach_of_ends hends s).entered hs', Hub.entered_step hs]
      have hnone : h.published? step = none := by cases step <;> first | rfl | cases hends
      simp [hnone, Hub.arrivals, hends]
    | false =>
      have hreg' : (h.effect place step s).registered = true := by
        rw [Hub.registered_effect hends, hreg]
      have hunread : h.unread place = s.queue := by simp [Hub.unread, hs]
      rw [ih hs' hreg', ← List.append_assoc, Hub.entered_step hs, (h.frame_effect place step s).1,
        (h.frame_effect place step s).2, List.append_assoc]
      congr 1
      rw [Hub.arrivals, hends, hunread]
      cases harrival : (h.published? step).filter (·.topic = s.topic) with
      | none => simp
      | some e => by_cases hroom : s.queue.length < s.room <;> simp [hreg, hroom, Option.filter]

/-- Arrivals continue the numbers of their topic without a gap. -/
theorem Hub.numbered_arrivals {h : Hub} {name : String} {t : Topic} (ht : h.topic? name = some t)
    (place : Nat) (steps : List HubStep) :
    Numbered t.version ((Hub.arrivals name place h steps).map Prod.fst) := by
  induction steps generalizing h t with
  | nil => exact Numbered.nil _
  | cons step steps ih =>
    have hnext := Hub.topic?_step h step name
    rw [Hub.arrivals]
    cases hends : step.ends place with
    | true => exact Numbered.nil _
    | false =>
      cases he : h.published? step with
      | none =>
        rw [he] at hnext
        simpa using ih (hnext.trans ht)
      | some e =>
        rw [he, ht] at hnext
        by_cases htopic : e.topic = name
        · obtain ⟨-, t', ht', hversion⟩ := Hub.published?_eq_some he
          rw [htopic, ht] at ht'
          cases ht'
          have hrest := ih (t := t.publish e) (by simpa [htopic] using hnext)
          rw [Topic.version_publish] at hrest
          simpa [Option.filter, htopic] using numbered_cons.mpr ⟨hversion, hrest⟩
        · simpa [Option.filter, htopic] using ih (hnext.trans (by simp [htopic]))

theorem Hub.topic_of_mem_arrivals {name : String} {place : Nat} {steps : List HubStep} {h : Hub}
    {a : Event × Nat} (ha : a ∈ Hub.arrivals name place h steps) : a.1.topic = name := by
  induction steps generalizing h with
  | nil => cases ha
  | cons step steps ih =>
    rw [Hub.arrivals] at ha
    split at ha
    · cases ha
    · split at ha
      · rename_i e he
        rcases List.mem_cons.mp ha with rfl | ha
        · simpa using (Option.filter_eq_some_iff.mp he).2
        · exact ih ha
      · exact ih ha

theorem Hub.length_queue_effect {h : Hub} {place : Nat} {s : Subscription}
    (hs : h.subscriptions[place]? = some s) (hle : s.queue.length ≤ s.room) (step : HubStep) :
    (h.effect place step s).queue.length ≤ s.room := by
  have hlength := congrArg List.length (Hub.entered_step hs step)
  rw [List.length_append, List.length_append] at hlength
  by_cases hroom : s.queue.length < s.room
  · have hone := Option.length_toList_le (o := ((h.published? step).filter (·.topic = s.topic)).filter
      fun _ => s.registered && decide (s.queue.length < s.room))
    omega
  · rw [Option.filter_eq_none_iff.mpr (by simp [hroom])] at hlength
    simp only [Option.toList_none, List.length_nil] at hlength
    omega

/-- No arrival finds more in a queue than the queue holds. -/
theorem Hub.le_room_of_mem_arrivals {h : Hub} {place : Nat} {s : Subscription}
    (hs : h.subscriptions[place]? = some s) (hle : s.queue.length ≤ s.room) {name : String}
    {steps : List HubStep} {a : Event × Nat} (ha : a ∈ Hub.arrivals name place h steps) :
    a.2 ≤ s.room := by
  induction steps generalizing h s with
  | nil => cases ha
  | cons step steps ih =>
    have hrest : a ∈ Hub.arrivals name place (h.step step).1 steps → a.2 ≤ s.room := by
      rw [← (h.frame_effect place step s).2]
      exact ih (Hub.getElem?_step hs step)
        ((h.frame_effect place step s).2.symm ▸ Hub.length_queue_effect hs hle step)
    rw [Hub.arrivals] at ha
    split at ha
    · cases ha
    · split at ha
      · rcases List.mem_cons.mp ha with rfl | ha
        · simpa [Hub.unread, hs] using hle
        · exact hrest ha
      · exact hrest ha

/-! ## 5. Delivery -/

theorem Hub.step_subscribe {h h' : Hub} {name : String} {place : Nat}
    (hstep : h.step (.subscribe name) = (h', .place place)) :
    ∃ t, h.topic? name = some t ∧ h'.topic? name = some t ∧
      h'.subscriptions[place]? = some { topic := name, room := t.plan.queueRoom, queue := t.history } := by
  rcases h.subscribe_cases name with ⟨t, -, ht, hopens⟩ | ⟨_, hfails⟩
  · rw [hopens] at hstep
    cases hstep
    exact ⟨t, ht, ht, by simp⟩
  · rw [hfails] at hstep
    cases hstep

/-- **A subscriber is given the history of its topic and then every event published on it while it is
    registered, in order, except exactly those that find its queue full.** A history always fits in the queue,
    and the queue never holds more than its room. So versions only rise, nothing comes from another topic, and
    unless the queue is once full no live event is missing. A call that publishes fails for one of three
    reasons, and then the hub is as before. -/
theorem Hub.delivers (plans : List (String × Plan)) (before : List HubStep) :
    let hub := ((Hub.ofPlans plans).run before).1
    (∀ name h place, hub.step (.subscribe name) = (h, .place place) →
      ∃ t, hub.topic? name = some t ∧ t.history.length ≤ t.plan.limit + 16 ∧
        ∀ after : List HubStep,
          let arrivals := Hub.arrivals name place h after
          h.entered place after =
              t.history ++ (arrivals.filter (·.2 < t.plan.limit + 16)).map Prod.fst ∧
            (∀ a ∈ arrivals, a.2 ≤ t.plan.limit + 16) ∧
            (h.entered place after).Pairwise (fun a b => a.version < b.version) ∧
            (∀ e ∈ h.entered place after, e.topic = name) ∧
            ((∀ a ∈ arrivals, a.2 < t.plan.limit + 16) →
              h.entered place after = t.history ++ arrivals.map Prod.fst ∧
                Numbered t.version (arrivals.map Prod.fst))) ∧
      ∀ name runId kind data,
        ((∃ e, (hub.step (.publish name runId kind data)).2 = .failed e) ↔
          data = none ∨ hub.closed = true ∨ hub.topic? name = none) ∧
        ((∃ e, (hub.step (.publish name runId kind data)).2 = .failed e) ↔
          hub.published? (.publish name runId kind data) = none) ∧
        ∀ e, (hub.step (.publish name runId kind data)).2 = .failed e →
          (hub.step (.publish name runId kind data)).1 = hub := by
  intro hub
  constructor
  · intro name h place hstep
    obtain ⟨t, ht, ht', hs⟩ := Hub.step_subscribe hstep
    have hsound : t.Sound name := ((Hub.sound_ofPlans plans).run before) name t ht
    have hfits : t.history.length ≤ t.plan.limit + 16 :=
      Nat.le_trans hsound.length_le_limit (Nat.le_add_right _ _)
    refine ⟨t, ht, hfits, ?_⟩
    intro after arrivals
    have hentered : h.entered place after =
        t.history ++ (arrivals.filter (·.2 < t.plan.limit + 16)).map Prod.fst :=
      Hub.entered_eq hs rfl after
    have hnumbered : Numbered t.version (arrivals.map Prod.fst) := Hub.numbered_arrivals ht' place after
    -- History and all arrivals have consecutive versions, and what enters is a part of that list.
    have hall : Numbered (t.version - t.history.length) (t.history ++ arrivals.map Prod.fst) := by
      rw [numbered_append, Nat.sub_add_cancel hsound.length_le_version]
      exact ⟨hsound.numbered, hnumbered⟩
    have hsub : (h.entered place after).Sublist (t.history ++ arrivals.map Prod.fst) := by
      rw [hentered]
      exact (List.Sublist.refl _).append (List.filter_sublist.map _)
    refine ⟨hentered, fun a ha => Hub.le_room_of_mem_arrivals hs hfits ha,
      hall.pairwise.sublist hsub, ?_, ?_⟩
    · intro e he
      rcases List.mem_append.mp (hsub.subset he) with hold | hnew
      · exact hsound.topic e hold
      · obtain ⟨a, ha, rfl⟩ := List.mem_map.mp hnew
        exact Hub.topic_of_mem_arrivals ha
    · intro hroom
      refine ⟨?_, hnumbered⟩
      rw [hentered, List.filter_eq_self.mpr]
      simpa using hroom
  · intro name runId kind data
    rcases hub.step_publish name runId kind data with
      ⟨t, e, hopen, ht, hdata, -, -, he, hstep⟩ | ⟨err, hwhy, hnone, hstep⟩
    · rw [hstep, he]
      refine ⟨⟨nofun, ?_⟩, ⟨nofun, nofun⟩, nofun⟩
      rintro (hnone | hclosed | hunknown)
      · rw [hnone] at hdata
        cases hdata
      · rw [hopen] at hclosed
        cases hclosed
      · rw [ht] at hunknown
        cases hunknown
    · rw [hstep]
      exact ⟨⟨fun _ => hwhy, fun _ => ⟨err, rfl⟩⟩, ⟨fun _ => hnone, fun _ => ⟨err, rfl⟩⟩, fun _ _ => rfl⟩

/-- A topic that keeps one event gives a subscriber room for seventeen. Here it starts with version 2, misses
    versions 19 and 20, which come while nothing is read, and after one read gets version 21. -/
theorem Hub.delivers_after_a_full_queue :
    let event : HubStep := .publish "news" "run" "kind" (some .null)
    let hub := ((Hub.ofPlans [("news", { replay := .run, runLimit := 1 })]).run [event, event]).1
    let after := List.replicate 18 event ++ [.read 0, event]
    ∃ h, hub.step (.subscribe "news") = (h, .place 0) ∧
      (h.entered 0 after).map Event.version = (List.range' 2 17).map Int.ofNat ++ [21] ∧
      (h.entered 0 after).Pairwise (fun a b => a.version < b.version) := by
  intro event hub after
  obtain ⟨hdelivers, -⟩ := Hub.delivers [("news", { replay := .run, runLimit := 1 })] [event, event]
  obtain ⟨t, -, -, hafter⟩ := hdelivers "news" _ 0 rfl
  obtain ⟨-, -, hrising, -⟩ := hafter after
  exact ⟨_, rfl, by decide, hrising⟩

end CallCoupling
