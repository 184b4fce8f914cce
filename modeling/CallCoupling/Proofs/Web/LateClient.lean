import CallCoupling.Proofs.Event.Replay
import CallCoupling.Proofs.Run.Session
import CallCoupling.Web.Server

/-!
# Whoever comes late sees the latest run

A server observes run after run. Between any two calls a client may come and subscribe, and it is to see the
latest run as far as it has got, and the size of the latest result, no matter how many runs there were and how
they ended.

`Server.Informed told s` says that the server has been told some calls, with clients coming and going in between.
What it has been told determines all but its subscriptions (`Server.Knows`): the two cells are the last status
and the last result, and the two topics are those on which all statuses and all results were published. What a
new client gets is then a fact about the two ways to replay (`Topic.after_runs`, `Topic.history_after_latest`)
and about the statuses of a run: they bear its name, and a run has too few of them to outgrow the history.
-/

set_option autoImplicit false

namespace CallCoupling

open Run (Errand)

/-- What is published of a status. -/
def Status.news (s : Status) : News := { runId := s.runId, kind := s.state, data := s.toJson }

/-- What is published of a result. -/
def Result.news (r : Result) : News :=
  { runId := r.runId, kind := "ready", data := (Server.outline r).toJson }

theorem flatMap_filter_of_nil {α β : Type} {keep : α → Bool} {f : α → List β}
    (h : ∀ x, keep x = false → f x = []) (xs : List α) : (xs.filter keep).flatMap f = xs.flatMap f := by
  induction xs with
  | nil => rfl
  | cons x xs ih =>
    cases hx : keep x with
    | true => rw [List.filter_cons_of_pos hx, List.flatMap_cons, List.flatMap_cons, ih]
    | false => rw [List.filter_cons_of_neg (by simp [hx]), ih, List.flatMap_cons, h x hx, List.nil_append]

theorem isChain_filter_concat {α : Type} {R : α → α → Prop} {keep : α → Bool} {xs : List α} {x : α}
    (hkeep : ∀ y ∈ xs, keep y = true) (h : (xs ++ [x]).IsChain R) :
    ((xs ++ [x]).filter keep).IsChain R := by
  rw [List.filter_append, List.filter_eq_self.2 hkeep]
  cases hx : keep x with
  | true => simpa [hx] using h
  | false => simpa [hx] using (List.isChain_append.1 h).1

namespace Server

/-! ## 1. What a server knows -/

/-- **The server has been told some calls**, one after the other, and clients have subscribed, read and left in
between. It has not been closed. -/
inductive Informed : List Call → Server → Prop
  | new : Informed [] {}
  | call {told : List Call} {s : Server} (call : Call) (h : Informed told s) :
    Informed (told ++ [call]) (Server.observer.tell s call)
  | client {told : List Call} {s : Server} (step : HubStep) (hstep : step.byClient = true)
    (h : Informed told s) : Informed told { s with hub := (s.hub.step step).1 }

theorem Informed.append {told : List Call} {s : Server} (h : Informed told s) (calls : List Call) :
    Informed (told ++ calls) (calls.foldl Server.observer.tell s) := by
  induction calls using List.reverseRecOn with
  | nil => simpa using h
  | append_singleton calls call ih =>
    rw [← List.append_assoc, List.foldl_append]
    exact ih.call call

/-- The topic of statuses after some of them. -/
def statusTopicAfter (statuses : List Status) : Topic :=
  Topic.after Hub.statusTopic { plan := { replay := .run } } (statuses.map Status.news)

/-- The topic of results after some of them. -/
def couplingTopicAfter (results : List Result) : Topic :=
  Topic.after Hub.couplingTopic { plan := { replay := .latest } } (results.map Result.news)

/-- **What a server knows after some calls.** -/
structure Knows (told : List Call) (s : Server) : Prop where
  isOpen : s.hub.closed = false
  status : s.status = (statusesIn told).getLast?.getD ({} : Server).status
  result : s.result = (resultsIn told).getLast?
  statuses : s.hub.topic? Hub.statusTopic = some (statusTopicAfter (statusesIn told))
  results : s.hub.topic? Hub.couplingTopic = some (couplingTopicAfter (resultsIn told))

theorem knows_new : Knows [] {} := ⟨rfl, rfl, rfl, rfl, rfl⟩

theorem statusTopicAfter_concat (statuses : List Status) (s : Status) :
    statusTopicAfter (statuses ++ [s]) = (statusTopicAfter statuses).after Hub.statusTopic [s.news] := by
  rw [statusTopicAfter, List.map_append, Topic.after_append]
  rfl

theorem couplingTopicAfter_concat (results : List Result) (r : Result) :
    couplingTopicAfter (results ++ [r]) = (couplingTopicAfter results).after Hub.couplingTopic [r.news] := by
  rw [couplingTopicAfter, List.map_append, Topic.after_append]
  rfl

theorem Knows.takeStatus {told : List Call} {s : Server} (hs : Knows told s) (status : Status) :
    Knows (told ++ [.status status]) (s.takeStatus status).1 := by
  obtain ⟨hub, hpublish, hopen, htopics⟩ := Hub.publish_news hs.isOpen hs.statuses status.news
  have htake : (s.takeStatus status).1 = { s with status, hub } := by
    have hok : s.hub.publishStatus status = .ok hub := hpublish
    simp only [Server.takeStatus, hok]
  have hstatuses : statusesIn (told ++ [.status status]) = statusesIn told ++ [status] :=
    statusesIn_append told [.status status]
  have hresults : resultsIn (told ++ [.status status]) = resultsIn told :=
    (resultsIn_append told [.status status]).trans (List.append_nil _)
  rw [htake]
  refine ⟨hopen, ?_, ?_, ?_, ?_⟩
  · rw [hstatuses, List.getLast?_concat]
    rfl
  · rw [hresults]
    exact hs.result
  · rw [hstatuses, statusTopicAfter_concat]
    exact (htopics _).trans (if_pos rfl)
  · rw [hresults]
    exact (htopics _).trans ((if_neg (by decide)).trans hs.results)

theorem Knows.takeResult {told : List Call} {s : Server} (hs : Knows told s) (r : Result) :
    Knows (told ++ [.result r]) (s.takeResult r) := by
  obtain ⟨hub, hpublish, hopen, htopics⟩ := Hub.publish_news hs.isOpen hs.results r.news
  have htake : s.takeResult r = { s with result := some r, hub } := by
    have hok : s.hub.publishOutline (Server.outline r) = .ok hub := hpublish
    simp only [Server.takeResult, hok]
  have hstatuses : statusesIn (told ++ [.result r]) = statusesIn told :=
    (statusesIn_append told [.result r]).trans (List.append_nil _)
  have hresults : resultsIn (told ++ [.result r]) = resultsIn told ++ [r] :=
    resultsIn_append told [.result r]
  rw [htake]
  refine ⟨hopen, ?_, ?_, ?_, ?_⟩
  · rw [hstatuses]
    exact hs.status
  · rw [hresults, List.getLast?_concat]
  · rw [hstatuses]
    exact (htopics _).trans ((if_neg (by decide)).trans hs.statuses)
  · rw [hresults, couplingTopicAfter_concat]
    exact (htopics _).trans (if_pos rfl)

theorem Informed.knows {told : List Call} {s : Server} (h : Informed told s) : Knows told s := by
  induction h with
  | new => exact knows_new
  | call call h ih =>
    cases call with
    | status status => exact ih.takeStatus status
    | result r => exact ih.takeResult r
  | client step hstep h ih =>
    obtain ⟨hopen, htopics⟩ := Hub.step_byClient hstep
    exact ⟨hopen.trans ih.isOpen, ih.status, ih.result, (htopics _).trans ih.statuses,
      (htopics _).trans ih.results⟩

/-! ## 2. What a new client gets -/

/-- The statuses of the latest run that has any. -/
def latestRun (runs : List (List Status)) : List Status := ((runs.filter (· ≠ [])).getLast?).getD []

/-- **The topic of statuses holds the latest run**, of runs that are given by their names and statuses. -/
theorem history_statusTopicAfter {runs : List (String × List Status)}
    (hid : ∀ run ∈ runs, ∀ s ∈ run.2, s.runId = run.1) (hlen : ∀ run ∈ runs, run.2.length ≤ 32)
    (hnames : (runs.filter (·.2 ≠ [])).IsChain fun a b => a.1 ≠ b.1) :
    let last := latestRun (runs.map Prod.snd)
    (statusTopicAfter (runs.flatMap Prod.snd)).history =
      News.events Hub.statusTopic ((runs.flatMap Prod.snd).length - last.length) (last.map Status.news) := by
  intro last
  have hflat : (runs.filter (·.2 ≠ [])).flatMap (fun run => run.2.map Status.news) =
      (runs.flatMap Prod.snd).map Status.news := by
    rw [flatMap_filter_of_nil (by simp), List.map_flatMap]
  have hlast : ((runs.filter (·.2 ≠ [])).getLast?.map fun run => run.2.map Status.news).getD [] =
      last.map Status.news := by
    have hkept : (runs.map Prod.snd).filter (· ≠ []) = (runs.filter (·.2 ≠ [])).map Prod.snd :=
      List.filter_map
    show _ = (latestRun (runs.map Prod.snd)).map Status.news
    rw [latestRun, hkept, List.getLast?_map]
    cases (runs.filter (·.2 ≠ [])).getLast? <;> rfl
  have hne : ∀ run ∈ runs.filter (·.2 ≠ []), run.2.map Status.news ≠ [] := by
    intro run hrun
    simpa using (List.mem_filter.1 hrun).2
  have hname : ∀ run ∈ runs.filter (·.2 ≠ []), ∀ x ∈ run.2.map Status.news, x.runId = run.1 := by
    intro run hrun x hx
    obtain ⟨s, hs, rfl⟩ := List.mem_map.1 hx
    exact hid run (List.mem_of_mem_filter hrun) s hs
  have hlimit : ∀ run ∈ runs.filter (·.2 ≠ []), (run.2.map Status.news).length ≤ 32 := by
    intro run hrun
    rw [List.length_map]
    exact hlen run (List.mem_of_mem_filter hrun)
  obtain ⟨hhistory, -⟩ := @Topic.after_runs Hub.statusTopic { plan := { replay := .run } } _ Prod.fst
    (fun run => run.2.map Status.news) rfl rfl _ hne hname hlimit hnames
  rw [hflat, hlast, List.length_map, List.length_map, Nat.zero_add] at hhistory
  exact hhistory

theorem statusesIn_flatMap (before : List Errand) :
    statusesIn (before.flatMap Errand.calls) = before.flatMap fun e => statusesIn e.calls :=
  List.filterMap_flatMap

theorem resultsIn_flatMap (before : List Errand) :
    resultsIn (before.flatMap Errand.calls) = before.filterMap fun e => e.outcome.toOption := by
  have hresults : resultsIn (before.flatMap Errand.calls) = before.flatMap fun e => resultsIn e.calls :=
    List.filterMap_flatMap
  rw [hresults, List.filterMap_eq_flatMap_toList]
  exact congrArg before.flatMap (funext Errand.results_eq)

/-- **In a session the topic of statuses holds the latest run**, as far as it has got. Consecutive runs have
different names. -/
theorem history_in_session {before : List Errand} {current : Errand} {sofar : List Call}
    (hnames : (before ++ [current]).IsChain fun a b => a.runId ≠ b.runId)
    (hsofar : sofar <+: current.calls) :
    let statuses := statusesIn (before.flatMap Errand.calls ++ sofar)
    let latest := latestRun ((before.map Errand.calls ++ [sofar]).map statusesIn)
    (statusTopicAfter statuses).history =
      News.events Hub.statusTopic (statuses.length - latest.length) (latest.map Status.news) := by
  intro statuses latest
  let ofErrand (e : Errand) : String × List Status := (e.runId, statusesIn e.calls)
  let runs := before.map ofErrand ++ [(current.runId, statusesIn sofar)]
  have hstatuses : runs.flatMap Prod.snd = statuses := by
    simp only [runs, statuses, List.flatMap_append, List.flatMap_map, List.flatMap_singleton,
      statusesIn_append, statusesIn_flatMap, ofErrand]
  have hlatest : runs.map Prod.snd = (before.map Errand.calls ++ [sofar]).map statusesIn := by
    simp [runs, ofErrand]
  have hpart : ∀ run ∈ runs, ∃ e : Errand, run.1 = e.runId ∧ run.2 <+: statusesIn e.calls := by
    intro run hrun
    obtain hrun | hrun := List.mem_append.1 hrun
    · obtain ⟨e, -, rfl⟩ := List.mem_map.1 hrun
      exact ⟨e, rfl, List.prefix_refl _⟩
    · obtain rfl := List.mem_singleton.1 hrun
      exact ⟨current, rfl, hsofar.filterMap _⟩
  have hid : ∀ run ∈ runs, ∀ s ∈ run.2, s.runId = run.1 := by
    intro run hrun s hs
    obtain ⟨e, hname, hstart⟩ := hpart run hrun
    rw [hname]
    exact Errand.runId_of_mem (hstart.subset hs)
  have hlen : ∀ run ∈ runs, run.2.length ≤ 32 := by
    intro run hrun
    obtain ⟨e, -, hstart⟩ := hpart run hrun
    exact hstart.length_le.trans (e.length_statuses_le.trans (by decide))
  have hids : runs.IsChain fun a b => a.1 ≠ b.1 := by
    have hfst : runs.map Prod.fst = (before ++ [current]).map Errand.runId := by simp [runs, ofErrand]
    have hmapped : (runs.map Prod.fst).IsChain (· ≠ ·) := hfst ▸ (List.isChain_map _).2 hnames
    exact (List.isChain_map _).1 hmapped
  -- Only the run that is under way may have told nothing yet.
  have hchain : (runs.filter (·.2 ≠ [])).IsChain fun a b => a.1 ≠ b.1 := by
    refine isChain_filter_concat (fun run hrun => ?_) hids
    obtain ⟨e, -, rfl⟩ := List.mem_map.1 hrun
    simpa [ofErrand] using e.statuses_ne_nil
  have hhistory := history_statusTopicAfter hid hlen hchain
  rw [hstatuses, hlatest] at hhistory
  exact hhistory

/-- **A late client sees the latest run, whole.** The runs of `before` are over and `current` has told `sofar`; run
after run, names differ. Whoever subscribes now has exactly the statuses of the latest run that has told any to
read, and one event with the latest result, if there was a success. The server keeps that result and the last
status. What `current` tells of results is its own, if it succeeds; and doing it is a way of being informed. -/
theorem late_client (before : List Errand) (current : Errand) (sofar : List Call) (s : Server)
    (hnames : (before ++ [current]).IsChain fun a b => a.runId ≠ b.runId)
    (hsofar : sofar <+: current.calls) (hs : s.Informed (before.flatMap Errand.calls ++ sofar)) :
    let statuses := statusesIn (before.flatMap Errand.calls ++ sofar)
    let latest := latestRun ((before.map Errand.calls ++ [sofar]).map statusesIn)
    let results := before.filterMap (fun e => e.outcome.toOption) ++ resultsIn sofar
    (∃ hub place, s.hub.subscribe Hub.statusTopic = .ok (hub, place) ∧
        hub.unread place =
          News.events Hub.statusTopic (statuses.length - latest.length) (latest.map Status.news)) ∧
      (∃ hub place, s.hub.subscribe Hub.couplingTopic = .ok (hub, place) ∧
        hub.unread place = (results.getLast?.map fun r =>
          r.news.event Hub.couplingTopic (results.length - 1)).toList) ∧
      s.result = results.getLast? ∧
      s.status = statuses.getLast?.getD ({} : Server).status ∧
      (resultsIn sofar <+: current.outcome.toOption.toList) ∧
      (sofar = current.calls → resultsIn sofar = current.outcome.toOption.toList) ∧
      (∀ e ∈ before ++ [current], ∀ r, e.outcome = .ok r → r.runId = e.runId) ∧
      ∀ s', Informed (before.flatMap Errand.calls) s' →
        (current.run Server.observer s').1 = current.outcome ∧
          Informed (before.flatMap Errand.calls ++ current.calls) (current.run Server.observer s').2.1 := by
  intro statuses latest results
  have hknows := hs.knows
  have hresults : resultsIn (before.flatMap Errand.calls ++ sofar) = results := by
    rw [resultsIn_append, resultsIn_flatMap]
  refine ⟨?_, ?_, ?_, hknows.status, ?_, ?_, ?_, ?_⟩
  · obtain ⟨hub, place, hsubscribe, hunread⟩ := Hub.subscribe_eq_ok hknows.isOpen hknows.statuses
    exact ⟨hub, place, hsubscribe, hunread.trans (history_in_session hnames hsofar)⟩
  · obtain ⟨hub, place, hsubscribe, hunread⟩ := Hub.subscribe_eq_ok hknows.isOpen hknows.results
    refine ⟨hub, place, hsubscribe, hunread.trans ?_⟩
    rw [hresults, couplingTopicAfter, Topic.history_after_latest rfl rfl, List.getLast?_map, Option.map_map,
      List.length_map, Nat.zero_add]
    rfl
  · rw [hknows.result, hresults]
  · rw [← current.results_eq]
    exact hsofar.filterMap _
  · rintro rfl
    exact current.results_eq
  · exact fun e _ r hr => Errand.runId_of_outcome hr
  · intro s' hs'
    rw [current.run_eq]
    exact ⟨rfl, hs'.append current.calls⟩

/-- After a run that succeeds and one that cannot load its model, a client is told the two statuses of the second
and the result of the first. -/
theorem late_client_after_a_failure :
    let first : Errand := { source := .given (.ok {}), config := { outOfSet := "drop" }, runId := "1" }
    let second : Errand := { source := .given (.error "gone"), config := { outOfSet := "grow" }, runId := "2" }
    let s := second.calls.foldl Server.observer.tell (first.calls.foldl Server.observer.tell {})
    (∃ hub place, s.hub.subscribe Hub.statusTopic = .ok (hub, place) ∧
        (hub.unread place).map (fun e => (e.runId, e.kind, e.version)) =
          [("2", "loading", 6), ("2", "error", 7)]) ∧
      ∃ hub place, s.hub.subscribe Hub.couplingTopic = .ok (hub, place) ∧
        (hub.unread place).map (fun e => (e.runId, e.kind, e.version)) = [("1", "ready", 1)] := by
  intro first second s
  have hs : s.Informed (first.calls ++ second.calls) := (Informed.new.append first.calls).append second.calls
  obtain ⟨⟨hub, place, hstatus, hstatuses⟩, ⟨hub', place', hcoupling, hresults⟩, -⟩ :=
    late_client [first] second second.calls s (by simp [first, second]) (List.prefix_refl _)
      (by simpa using hs)
  refine ⟨⟨hub, place, hstatus, ?_⟩, hub', place', hcoupling, ?_⟩
  · rw [hstatuses]
    decide +kernel
  · rw [hresults]
    decide +kernel

end Server

end CallCoupling
