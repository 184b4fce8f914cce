import CallCoupling.Proofs.Event.Delivery

/-!
# What a late subscriber is told

A topic that replays the latest run keeps the events of that run and forgets them with the first event of the
next. So whoever subscribes is told the latest run from its first event on, provided that the run has not
outgrown the limit of the history and that the run before it had another name (`Topic.after_runs`). A topic that
replays the latest event keeps that one (`Topic.history_after_latest`).

`News` is what there is to say; `Topic.after` is a topic on which some news was published in a row, and
`News.events` the events that carry them.
-/

set_option autoImplicit false

namespace CallCoupling

/-- Something to publish. -/
structure News where
  runId : String
  kind : String
  data : Json

/-- The event that carries news on a topic with `n` events before it. -/
def News.event (name : String) (n : Nat) (x : News) : Event :=
  { topic := name, runId := x.runId, kind := x.kind, data := x.data.safe, version := n + 1 }

/-- The events that carry news one after the other. -/
def News.events (name : String) (n : Nat) : List News → List Event
  | [] => []
  | x :: rest => x.event name n :: News.events name (n + 1) rest

/-- A topic after news. -/
def Topic.after (name : String) (t : Topic) (news : List News) : Topic :=
  news.foldl (fun t x => t.publish (x.event name t.version)) t

/-! ## 1. One piece of news after the other -/

theorem News.events_concat (name : String) (n : Nat) (news : List News) (x : News) :
    News.events name n (news ++ [x]) = News.events name n news ++ [x.event name (n + news.length)] := by
  induction news generalizing n with
  | nil => rfl
  | cons y rest ih =>
    rw [List.cons_append, News.events, News.events, ih, List.length_cons]
    simp [Nat.add_comm, Nat.add_left_comm]

theorem News.length_events (name : String) (n : Nat) (news : List News) :
    (News.events name n news).length = news.length := by
  induction news generalizing n with
  | nil => rfl
  | cons x rest ih => rw [News.events, List.length_cons, ih, List.length_cons]

section

variable {name : String} {t : Topic}

theorem Topic.after_append (news more : List News) :
    t.after name (news ++ more) = (t.after name news).after name more := List.foldl_append

theorem Topic.after_concat (news : List News) (x : News) :
    t.after name (news ++ [x]) =
      (t.after name news).publish (x.event name (t.after name news).version) := Topic.after_append news [x]

@[simp] theorem Topic.plan_after (news : List News) : (t.after name news).plan = t.plan := by
  induction news using List.reverseRecOn with
  | nil => rfl
  | append_singleton news x ih => rw [Topic.after_concat, Topic.plan_publish, ih]

theorem Topic.version_after (news : List News) :
    (t.after name news).version = t.version + news.length := by
  induction news using List.reverseRecOn with
  | nil => rfl
  | append_singleton news x ih =>
    rw [Topic.after_concat, Topic.version_publish, ih, List.length_append, List.length_singleton,
      Nat.add_assoc]

/-! ## 2. The latest run -/

theorem Topic.lastItems_of_le {α : Type} {n : Nat} {xs : List α} (h : xs.length ≤ n) :
    Topic.lastItems n xs = xs := by
  rw [Topic.lastItems, Nat.sub_eq_zero_of_le h, List.drop_zero]

/-- **A run that keeps within the limit is kept whole**, and nothing of the run before it. -/
theorem Topic.after_run (hplan : t.plan.replay = .run) {run : String} {news : List News} (hne : news ≠ [])
    (hid : ∀ x ∈ news, x.runId = run) (hlen : news.length ≤ t.plan.limit)
    (hfresh : t.runId ≠ run ∨ t.history = []) :
    (t.after name news).history = News.events name t.version news ∧ (t.after name news).runId = run := by
  induction news using List.reverseRecOn with
  | nil => exact absurd rfl hne
  | append_singleton news x ih =>
    have hplan' : (t.after name news).plan.replay = .run := by rw [Topic.plan_after, hplan]
    have hx : x.runId = run := hid x (by simp)
    rw [List.length_append, List.length_singleton] at hlen
    -- What is kept of what was there before `x`: the news of this run, and nothing else.
    have hkept : (if x.runId = (t.after name news).runId then (t.after name news).history else []) =
        News.events name t.version news := by
      by_cases hnil : news = []
      · subst hnil
        split
        · next hsame =>
          rcases hfresh with hother | hempty
          · exact absurd (hsame.symm.trans hx) hother
          · exact hempty
        · rfl
      · obtain ⟨hhistory, hname⟩ := ih hnil (fun y hy => hid y (by simp [hy])) (by omega)
        rw [if_pos (hx.trans hname.symm), hhistory]
    rw [Topic.after_concat]
    refine ⟨?_, (Topic.runId_publish_run hplan' _).trans hx⟩
    rw [Topic.history_publish_run hplan', News.events_concat, ← Topic.version_after]
    show Topic.lastItems _ ((if x.runId = _ then _ else _) ++ _) = _
    rw [hkept, Topic.plan_after, Topic.lastItems_of_le]
    rw [List.length_append, News.length_events, List.length_singleton]
    exact hlen

/-- **Of several runs in a row the last is kept, and whole.** -/
theorem Topic.after_runs {α : Type} (idOf : α → String) (newsOf : α → List News)
    (hplan : t.plan.replay = .run) (hempty : t.history = []) {runs : List α}
    (hne : ∀ run ∈ runs, newsOf run ≠ []) (hid : ∀ run ∈ runs, ∀ x ∈ newsOf run, x.runId = idOf run)
    (hlen : ∀ run ∈ runs, (newsOf run).length ≤ t.plan.limit)
    (hnames : runs.IsChain fun a b => idOf a ≠ idOf b) :
    let last := (runs.getLast?.map newsOf).getD []
    (t.after name (runs.flatMap newsOf)).history =
        News.events name (t.version + (runs.flatMap newsOf).length - last.length) last ∧
      ∀ run ∈ runs.getLast?, (t.after name (runs.flatMap newsOf)).runId = idOf run := by
  induction runs using List.reverseRecOn with
  | nil => exact ⟨hempty, nofun⟩
  | append_singleton runs run ih =>
    obtain ⟨hbefore, -, hlast⟩ := List.isChain_append.1 hnames
    obtain ⟨hhistory, hrun⟩ := ih (fun r hr => hne r (by simp [hr])) (fun r hr => hid r (by simp [hr]))
      (fun r hr => hlen r (by simp [hr])) hbefore
    have hfresh : (t.after name (runs.flatMap newsOf)).runId ≠ idOf run ∨
        (t.after name (runs.flatMap newsOf)).history = [] := by
      cases hprevious : runs.getLast? with
      | none =>
        right
        rw [hhistory, hprevious]
        rfl
      | some previous =>
        left
        rw [hrun previous hprevious]
        exact hlast previous hprevious run rfl
    have hlimit : (newsOf run).length ≤ (t.after name (runs.flatMap newsOf)).plan.limit := by
      rw [Topic.plan_after]
      exact hlen run (by simp)
    obtain ⟨hnow, hname⟩ := Topic.after_run (by rw [Topic.plan_after, hplan]) (hne run (by simp))
      (hid run (by simp)) hlimit hfresh
    rw [List.flatMap_append, List.flatMap_singleton, Topic.after_append, List.getLast?_concat]
    refine ⟨?_, fun r hr => ?_⟩
    · rw [hnow, Topic.version_after, Option.map_some, Option.getD_some, List.length_append, ← Nat.add_assoc,
        Nat.add_sub_cancel]
    · cases hr
      exact hname

/-! ## 3. The latest event -/

theorem Topic.history_after_latest (hplan : t.plan.replay = .latest) (hempty : t.history = [])
    (news : List News) :
    (t.after name news).history =
      (news.getLast?.map fun x => x.event name (t.version + news.length - 1)).toList := by
  induction news using List.reverseRecOn with
  | nil => exact hempty
  | append_singleton news x ih =>
    rw [Topic.after_concat, Topic.history_publish_latest (by rw [Topic.plan_after, hplan]),
      Topic.version_after, List.getLast?_concat, List.length_append, List.length_singleton]
    rfl

end

/-! ## 4. The hub -/

theorem Hub.publish_news {h : Hub} {name : String} {t : Topic} (hopen : h.closed = false)
    (ht : h.topic? name = some t) (x : News) :
    ∃ h', h.publish name x.runId x.kind (some x.data) = .ok h' ∧ h'.closed = false ∧
      ∀ other, h'.topic? other = if other = name then some (t.after name [x]) else h.topic? other := by
  refine ⟨{ h.setTopic name (t.after name [x]) with
    subscriptions := h.subscriptions.map (·.receive (x.event name t.version)) }, ?_, hopen, ?_⟩
  · rw [Hub.publish, Hub.openTopic_eq_ok.mpr ⟨hopen, ht⟩]
    rfl
  · intro other
    show (h.setTopic name (t.after name [x])).topic? other = _
    rw [Hub.topic?_setTopic]
    split
    · next hother => rw [hother, ht, Option.map_some]
    · rfl

/-- Does a client make the call? It publishes nothing then, and leaves the hub open. -/
def HubStep.byClient : HubStep → Bool
  | .subscribe _ | .read _ | .unsubscribe _ => true
  | .publish .. | .close => false

theorem Hub.step_byClient {h : Hub} {step : HubStep} (hstep : step.byClient = true) :
    (h.step step).1.closed = h.closed ∧ ∀ name, (h.step step).1.topic? name = h.topic? name := by
  have hclose : step ≠ .close := by
    rintro rfl
    cases hstep
  constructor
  · rw [Bool.eq_iff_iff, Hub.closed_step_iff]
    simp [hclose]
  · intro name
    rw [Hub.topic?_step]
    cases step with
    | publish topic runId kind data => cases hstep
    | subscribe topic => rfl
    | read place => rfl
    | unsubscribe place => rfl
    | close => cases hstep

/-- A new subscriber has the history of its topic to read. -/
theorem Hub.subscribe_eq_ok {h : Hub} {name : String} {t : Topic} (hopen : h.closed = false)
    (ht : h.topic? name = some t) :
    ∃ h' place, h.subscribe name = .ok (h', place) ∧ h'.unread place = t.history := by
  rw [Hub.subscribe, Hub.openTopic_eq_ok.mpr ⟨hopen, ht⟩]
  exact ⟨_, _, rfl, by simp [Hub.unread]⟩

end CallCoupling
