import CallCoupling.Proofs.Run.Protocol

/-!
# Runs in a row

A session is a row of runs that share an observer. What one of them tells depends on what it is asked, on the
files it finds and on when it is cancelled, and not on who listens: `Errand.run_eq` says so, and it is why what
a session tells can be said before there is an observer to tell it to (`Errand.calls`).

Of what a single run tells, only its size and its shape matter later: it is not silent, it has few statuses, all
with its name, and it has a result exactly if it succeeds.
-/

set_option autoImplicit false

namespace CallCoupling

/-- An observer that also keeps what it is told. A run is cancelled when what it has told so far says so. -/
def Observer.recording {σ : Type} (obs : Observer σ) (cancels : List Call → Bool) :
    Observer (σ × List Call) where
  status s x := (((obs.status s x.1).1, x.2 ++ [.status s]), (obs.status s x.1).2)
  result r x := (obs.result r x.1, x.2 ++ [.result r])
  cancelled x := cancels x.2

theorem Observer.foldl_tell_recording {σ : Type} (obs : Observer σ) (cancels : List Call → Bool)
    (calls : List Call) (x : σ × List Call) :
    calls.foldl (obs.recording cancels).tell x = (calls.foldl obs.tell x.1, x.2 ++ calls) := by
  induction calls generalizing x with
  | nil => simp
  | cons call calls ih =>
    rw [List.foldl_cons, ih]
    cases call <;> simp [Observer.recording]

/-- The statuses among some calls. -/
def statusesIn (calls : List Call) : List Status := Recorder.statuses { calls }

/-- The results among some calls. -/
def resultsIn (calls : List Call) : List Result := Recorder.results { calls }

theorem statusesIn_append (calls more : List Call) :
    statusesIn (calls ++ more) = statusesIn calls ++ statusesIn more := List.filterMap_append

theorem resultsIn_append (calls more : List Call) :
    resultsIn (calls ++ more) = resultsIn calls ++ resultsIn more := List.filterMap_append

theorem mem_statusesIn {calls : List Call} {s : Status} : s ∈ statusesIn calls ↔ .status s ∈ calls := by
  unfold statusesIn Recorder.statuses
  rw [List.mem_filterMap]
  constructor
  · rintro ⟨call, hcall, hsome⟩
    cases call with
    | status t => cases hsome; exact hcall
    | result r => cases hsome
  · exact fun h => ⟨.status s, h, rfl⟩

namespace Run

theorem statusesIn_announced (runId : String) (n : Nat) :
    statusesIn (announced runId n) = (announcements runId).take n := by
  unfold statusesIn Recorder.statuses announced
  rw [List.filterMap_map]
  exact List.filterMap_some

theorem resultsIn_announced (runId : String) (n : Nat) : resultsIn (announced runId n) = [] := by
  unfold resultsIn Recorder.results announced
  rw [List.filterMap_map]
  exact List.filterMap_none _

theorem statusesIn_complaint (runId : String) (step : Nat) (f : Failure) :
    statusesIn (complaint runId step f) = if f.cause = .fault then [] else [errorStatus runId step f] := by
  unfold complaint
  split <;> rfl

theorem resultsIn_complaint (runId : String) (step : Nat) (f : Failure) :
    resultsIn (complaint runId step f) = [] := by
  unfold complaint
  split <;> rfl

/-- A run of a session; it has settings. -/
structure Errand where
  source : Source
  config : Config
  runId : String
  reason : String := ""
  elapsed : Duration := ⟨0⟩
  /-- The files that it finds. -/
  files : Workspace := {}
  /-- Is it to be cancelled, after what it has told? -/
  cancels : List Call → Bool := fun _ => false

namespace Errand

/-- What is asked in an errand. -/
def request (e : Errand) : Request :=
  { source := e.source, config := some e.config, runId := e.runId, reason := e.reason, elapsed := e.elapsed }

/-- Do an errand before an observer: the outcome, what the observer has become, and what it was told. -/
def run {σ : Type} (e : Errand) (obs : Observer σ) (x : σ) : Except Failure Result × σ × List Call :=
  let done := perform (obs.recording e.cancels) e.request { observer := (x, []), files := e.files }
  (done.1, done.2.observer)

/-- The outcome of an errand. -/
def outcome (e : Errand) : Except Failure Result := (e.run Observer.deaf ()).1

/-- What is told in an errand. -/
def calls (e : Errand) : List Call := (e.run Observer.deaf ()).2.2

/-- How an errand ends. -/
def ending (e : Errand) : Ending :=
  (Run.ending e.request (fun n => e.cancels (announced e.request.runId n)) e.files).1

theorem exists_ending_eq (e : Errand) :
    ∃ files, Run.ending e.request (fun n => e.cancels (announced e.request.runId n)) e.files =
      (e.ending, files) := ⟨_, Prod.mk.eta.symm⟩

theorem run_eq_ending {σ : Type} (e : Errand) (obs : Observer σ) (x : σ) :
    e.run obs x = (e.ending.outcome, (e.ending.calls e.runId).foldl obs.tell x,
      e.ending.calls e.runId) := by
  have hcancelled : (fun n => (obs.recording e.cancels).cancelled
      (heard (obs.recording e.cancels) e.request.runId (x, []) n)) =
        fun n => e.cancels (announced e.request.runId n) := by
    funext n
    rw [heard, Observer.foldl_tell_recording]
    rfl
  obtain ⟨houtcome, hobserver, -⟩ :=
    perform_eq (obs.recording e.cancels) e.request { observer := (x, []), files := e.files }
  rw [hcancelled] at houtcome hobserver
  rw [Observer.foldl_tell_recording, List.nil_append] at hobserver
  rw [run, houtcome, hobserver]
  rfl

/-- **Who listens makes no difference.** -/
theorem run_eq {σ : Type} (e : Errand) (obs : Observer σ) (x : σ) :
    e.run obs x = (e.outcome, e.calls.foldl obs.tell x, e.calls) := by
  rw [run_eq_ending, outcome, calls, run_eq_ending]

theorem outcome_eq (e : Errand) : e.outcome = e.ending.outcome := by rw [outcome, run_eq_ending]

theorem calls_eq (e : Errand) : e.calls = e.ending.calls e.runId := by rw [calls, run_eq_ending]

-- To unfold these is to run the whole program; from here on their equations say what is needed of them.
attribute [irreducible] run outcome calls ending

theorem runId_of_mem {e : Errand} {s : Status} (h : s ∈ statusesIn e.calls) : s.runId = e.runId := by
  rw [mem_statusesIn, calls_eq] at h
  exact (Ending.status_of_mem_calls h).1

/-- **A run has few statuses**: one for each step, and one for the end. -/
theorem length_statuses_le (e : Errand) : (statusesIn e.calls).length ≤ 5 := by
  rw [calls_eq]
  cases e.ending with
  | failed step f =>
    have hsteps : ((announcements e.runId).take step).length ≤ 4 := List.length_take_le' _ _
    rw [Ending.calls, statusesIn_append, statusesIn_announced, statusesIn_complaint, List.length_append]
    split
    · simp only [List.length_nil]
      omega
    · simp only [List.length_singleton]
      omega
  | finished result => exact Nat.le_refl 5

/-- No run is silent. -/
theorem statuses_ne_nil (e : Errand) : statusesIn e.calls ≠ [] := by
  rw [calls_eq]
  cases hend : e.ending with
  | finished result => exact List.cons_ne_nil _ _
  | failed step f =>
    rw [Ending.calls, statusesIn_append, statusesIn_announced, statusesIn_complaint]
    obtain ⟨files, hfiles⟩ := e.exists_ending_eq
    rw [hend] at hfiles
    obtain ⟨-, -, ⟨rfl, hbad⟩ | ⟨hstep, -⟩⟩ := ending_eq_failed hfiles
    · obtain ⟨hnone, -⟩ | ⟨config, bad, -, -, rfl⟩ := settings_eq_error hbad
      · cases hnone
      · have hcause : bad.failure.cause ≠ .fault := by simp [PolicyError.failure, Failure.other]
        rw [if_neg hcause]
        simp
    · obtain ⟨n, rfl⟩ := Nat.exists_eq_add_of_lt hstep
      rw [Nat.zero_add]
      exact List.cons_ne_nil _ _

/-- **A run tells a result exactly if it succeeds.** -/
theorem results_eq (e : Errand) : resultsIn e.calls = e.outcome.toOption.toList := by
  rw [calls_eq, outcome_eq]
  cases e.ending with
  | failed step f =>
    rw [Ending.calls, resultsIn_append, resultsIn_announced, resultsIn_complaint]
    rfl
  | finished result => rfl

theorem runId_of_outcome {e : Errand} {result : Result} (h : e.outcome = .ok result) :
    result.runId = e.runId := by
  obtain ⟨files, hfiles⟩ := e.exists_ending_eq
  rw [Ending.outcome_eq_ok (e.outcome_eq.symm.trans h)] at hfiles
  obtain ⟨c, -, -, rfl⟩ := ending_eq_finished hfiles
  rfl

end Errand

end Run

end CallCoupling
