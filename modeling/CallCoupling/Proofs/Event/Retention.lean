import CallCoupling.Proofs.Event.Delivery

/-!
# A history is told from what was published

A topic updates its history with every event: it forgets the run before, appends, and drops what exceeds the
limit. This file says what that comes to, by looking only at the list of all events published on the topic
(`Hub.publishedOn`). A topic that replays runs keeps the last events of the *latest run*, which is the longest
end of that list whose events all have the run of the last one (`LatestRun`); an earlier run of the same name does
not count, unless nothing came in between.

Two facts carry the proof. The latest run grows by one event or starts anew (`latestRun_concat`), as the history
does. And dropping early does no harm: the last items of the last items and one more are the last items of all
(`Topic.lastItems_concat`).
-/

set_option autoImplicit false

namespace CallCoupling

/-- The events that the calls of a run publish on a topic, those of calls that fail left out. -/
def Hub.publishedOn (name : String) : Hub → List HubStep → List Event
  | _, [] => []
  | h, step :: steps =>
    (h.published? step).toList.filter (·.topic = name) ++ publishedOn name (h.step step).1 steps

/-- `run` is the longest end of `events` whose events all have the run id of the last event. -/
structure LatestRun (events run : List Event) : Prop where
  suffix : run <:+ events
  same : ∀ e ∈ run, ∀ last ∈ events.getLast?, e.runId = last.runId
  longest : ∀ other, other <:+ events → (∀ e ∈ other, ∀ last ∈ events.getLast?, e.runId = last.runId) →
    other.length ≤ run.length

/-- **What a topic keeps of the events published on it**, as its plan says. -/
structure Topic.Retains (t : Topic) (plan : Plan) (events : List Event) : Prop where
  nothing : plan.replay = .nothing → t.history = []
  latest : plan.replay = .latest → t.history = events.getLast?.toList
  run : plan.replay = .run → ∃ (run : List Event) (limit : Nat),
    LatestRun events run ∧ (limit : Int) = (if 0 < plan.runLimit then plan.runLimit else 32) ∧
      t.history <:+ run ∧ t.history.length = min limit run.length
  version : t.version = events.length
  length_le : t.history.length ≤ t.version
  numbered : Numbered (t.version - t.history.length) t.history

/-! ## 1. The latest run -/

def latestRun (events : List Event) : List Event :=
  events.rtakeWhile fun e => events.getLast?.all fun last => e.runId = last.runId

/-- An end of a list that has a property throughout is within the longest one. -/
theorem length_le_rtakeWhile {α : Type} {p : α → Bool} {l other : List α} (hsuffix : other <:+ l)
    (hall : ∀ a ∈ other, p a) : other.length ≤ (l.rtakeWhile p).length := by
  obtain ⟨front, rfl⟩ := hsuffix
  have hreverse : ∀ a ∈ other.reverse, p a := by
    intro a ha
    exact hall a (List.mem_reverse.1 ha)
  rw [List.rtakeWhile, List.reverse_append, List.takeWhile_append_of_pos hreverse]
  simp

theorem latestRun_spec (events : List Event) : LatestRun events (latestRun events) where
  suffix := List.rtakeWhile_suffix _ _
  same := by
    intro e he last hlast
    have hp := List.mem_rtakeWhile_imp he
    rw [Option.mem_def.1 hlast] at hp
    simpa using hp
  longest := by
    intro other hsuffix hall
    refine length_le_rtakeWhile hsuffix ?_
    intro e he
    cases hlast : events.getLast? with
    | none => rfl
    | some last => simpa using hall e he last hlast

/-- The latest run goes on with an event of its name and starts anew with another. -/
theorem latestRun_concat (events : List Event) (e : Event) :
    latestRun (events ++ [e]) =
      (if ∀ last ∈ events.getLast?, e.runId = last.runId then latestRun events else []) ++ [e] := by
  have hgoes : latestRun (events ++ [e]) = events.rtakeWhile (fun a => a.runId = e.runId) ++ [e] := by
    unfold latestRun
    rw [List.getLast?_concat, List.rtakeWhile_concat]
    simp
  rw [hgoes]
  congr 1
  rcases List.eq_nil_or_concat' events with rfl | ⟨before, last, rfl⟩
  · simp [latestRun]
  · by_cases hrun : e.runId = last.runId
    · simp [latestRun, hrun]
    · simp [hrun, Ne.symm hrun]

/-! ## 2. One topic -/

theorem Topic.lastItems_concat {α : Type} (n : Nat) (xs : List α) (x : α) :
    Topic.lastItems n (Topic.lastItems n xs ++ [x]) = Topic.lastItems n (xs ++ [x]) := by
  unfold Topic.lastItems
  rw [List.length_append, List.length_append, List.length_drop, List.length_singleton]
  by_cases hlong : xs.length ≤ n
  · have hkept : xs.length - n = 0 := by omega
    simp [hkept]
  · by_cases hn : n = 0
    · simp [hn]
    · -- The whole list loses one item more than the end of it that was kept.
      have hend : xs.length - (xs.length - n) + 1 - n = 1 := by omega
      have hwhole : xs.length + 1 - n = xs.length - n + 1 := by omega
      rw [hend, hwhole, List.drop_append_of_le_length (by rw [List.length_drop]; omega),
        List.drop_append_of_le_length (by omega), List.drop_drop]

section

variable {plan : Plan}

theorem Topic.plan_foldl_publish (t : Topic) (events : List Event) :
    (events.foldl Topic.publish t).plan = t.plan := by
  induction events generalizing t with
  | nil => rfl
  | cons e events ih => rw [List.foldl_cons, ih, Topic.plan_publish]

theorem Topic.version_foldl_publish (t : Topic) (events : List Event) :
    (events.foldl Topic.publish t).version = t.version + events.length := by
  induction events generalizing t with
  | nil => rfl
  | cons e events ih =>
    rw [List.foldl_cons, ih, Topic.version_publish, List.length_cons]
    omega

theorem Topic.history_latest (hplan : plan.replay = .latest) (events : List Event) :
    (events.foldl Topic.publish { plan }).history = events.getLast?.toList := by
  rcases List.eq_nil_or_concat' events with rfl | ⟨before, last, rfl⟩
  · rfl
  · rw [List.foldl_concat, Topic.history_publish_latest (by rw [Topic.plan_foldl_publish, hplan])]
    simp

/-- A topic that replays runs holds the end of the latest run, and its name. -/
theorem Topic.history_run (hplan : plan.replay = .run) (events : List Event) :
    (events.foldl Topic.publish { plan }).history = Topic.lastItems plan.limit (latestRun events) ∧
      ∀ last ∈ events.getLast?, (events.foldl Topic.publish { plan }).runId = last.runId := by
  induction events using List.reverseRecOn with
  | nil => simp [latestRun, Topic.lastItems]
  | append_singleton events e ih =>
    obtain ⟨hhistory, hname⟩ := ih
    have hplan' : (events.foldl Topic.publish { plan }).plan = plan := Topic.plan_foldl_publish _ events
    have hreplay : (events.foldl Topic.publish { plan }).plan.replay = .run := by rw [hplan', hplan]
    rw [List.foldl_concat, Topic.history_publish_run hreplay, Topic.runId_publish_run hreplay, hplan',
      hhistory, latestRun_concat]
    constructor
    · rcases List.eq_nil_or_concat' events with rfl | ⟨before, last, rfl⟩
      · -- Before the first event there is nothing to keep, whatever the name of its run.
        simp [latestRun, Topic.lastItems]
      · have hlast : (List.foldl Topic.publish { plan } (before ++ [last])).runId = last.runId :=
          hname last (by simp)
        simp only [List.getLast?_concat, Option.mem_some_iff, forall_eq', hlast]
        by_cases hrun : e.runId = last.runId
        · rw [if_pos hrun, if_pos hrun, Topic.lastItems_concat]
        · rw [if_neg hrun, if_neg hrun]
    · intro last hlast
      rw [List.getLast?_concat, Option.mem_some_iff] at hlast
      rw [hlast]

end

/-! ## 3. Every topic of a hub -/

theorem Hub.topic?_run (h : Hub) (steps : List HubStep) (name : String) :
    (h.run steps).1.topic? name =
      (h.topic? name).map fun t => (h.publishedOn name steps).foldl Topic.publish t := by
  induction steps generalizing h with
  | nil => simp [Hub.run, Hub.publishedOn]
  | cons step steps ih =>
    show ((h.step step).1.run steps).1.topic? name = _
    rw [ih, Hub.topic?_step, Hub.publishedOn]
    cases he : h.published? step with
    | none => simp
    | some e =>
      by_cases htopic : e.topic = name
      · simp [htopic, Function.comp_def]
      · simp [htopic]

theorem Plan.limit_eq (p : Plan) : (p.limit : Int) = if 0 < p.runLimit then p.runLimit else 32 := by
  unfold Plan.limit
  split
  · omega
  · rfl

/-- **The history of a topic is exactly what its plan keeps of the events published on it**, after any calls on
    the hub: nothing, the last event, or of the longest end of one run the last events up to the limit. Their
    versions are consecutive and end with the version of the topic. -/
theorem Hub.retains (plans : List (String × Plan)) (steps : List HubStep) (name : String) {plan : Plan}
    (hplan : plans.lookup name = some plan) :
    ∃ t, ((Hub.ofPlans plans).run steps).1.topic? name = some t ∧
      t.Retains plan ((Hub.ofPlans plans).publishedOn name steps) := by
  have hnew : (Hub.ofPlans plans).topic? name = some { plan } := by
    rw [Hub.topic?_ofPlans, hplan, Option.map_some]
  set events := (Hub.ofPlans plans).publishedOn name steps with hevents
  have ht : ((Hub.ofPlans plans).run steps).1.topic? name =
      some (events.foldl Topic.publish { plan }) := by
    rw [Hub.topic?_run, hnew, Option.map_some]
  have hsound : (events.foldl Topic.publish { plan }).Sound name :=
    ((Hub.sound_ofPlans plans).run steps) name _ ht
  have hplan' : (events.foldl Topic.publish { plan }).plan = plan := Topic.plan_foldl_publish _ events
  refine ⟨_, ht, ?_, ?_, ?_, ?_, hsound.length_le_version, hsound.numbered⟩
  · intro hnothing
    exact hsound.empty (by rw [hplan', hnothing])
  · intro hlatest
    exact Topic.history_latest hlatest events
  · intro hrun
    obtain ⟨hhistory, -⟩ := Topic.history_run hrun events
    refine ⟨latestRun events, plan.limit, latestRun_spec events, plan.limit_eq, ?_, ?_⟩
    · rw [hhistory]
      exact List.drop_suffix _ _
    · rw [hhistory, Topic.length_lastItems]
  · rw [Topic.version_foldl_publish, Nat.zero_add]

/-- A run without a name comes first, run `a` is cut to two events, run `b` comes between, and a second run of the
    name `a` starts anew; data without a JSON form is not published. -/
theorem Hub.retains_a_run_that_comes_back :
    let plans : List (String × Plan) := [("other", {}), ("news", { replay := .run, runLimit := 2 })]
    let call (run : String) : HubStep := .publish "news" run "kind" (some .null)
    let early := [call "", call "a", call "a", call "a"]
    let late := [call "b", .publish "other" "a" "kind" (some .null), call "a",
      .publish "news" "b" "kind" none]
    plans.lookup "news" = some { replay := .run, runLimit := 2 } ∧
      (∃ t, ((Hub.ofPlans plans).run early).1.topic? "news" = some t ∧ t.history.map Event.version = [3, 4] ∧
        t.Retains { replay := .run, runLimit := 2 } ((Hub.ofPlans plans).publishedOn "news" early)) ∧
      ∃ t, ((Hub.ofPlans plans).run (early ++ late)).1.topic? "news" = some t ∧
        t.history.map Event.version = [6] ∧
        t.Retains { replay := .run, runLimit := 2 } ((Hub.ofPlans plans).publishedOn "news" (early ++ late)) := by
  intro plans call early late
  obtain ⟨t, ht, hretains⟩ := Hub.retains plans early "news" rfl
  obtain ⟨t', ht', hretains'⟩ := Hub.retains plans (early ++ late) "news" rfl
  refine ⟨rfl, ⟨t, ht, ?_, hretains⟩, ⟨t', ht', ?_, hretains'⟩⟩
  · obtain rfl := Option.some.inj ht
    decide
  · obtain rfl := Option.some.inj ht'
    decide

end CallCoupling
