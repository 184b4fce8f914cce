import CallCoupling.Proofs.Run.Course
import CallCoupling.Proofs.Workspace
import Mathlib

/-!
# What a run tells, and what it leaves when it fails

The recorder keeps all that a run tells it. Its record after a run is the record before it with the calls of the
run's ending behind it, and the ending does not depend on which statuses the recorder fails to take: the two
observers tell the same, by definition, and `Run.ending` sees no more of an observer than whether it cancels.
-/

set_option autoImplicit false

namespace CallCoupling

theorem Recorder.calls_foldl_tell (fails : Status → Option Failure) (cancels : Status → Bool)
    (calls : List Call) (x : Recorder) :
    (calls.foldl (Recorder.observer fails cancels).tell x).calls = x.calls ++ calls := by
  induction calls generalizing x with
  | nil => simp
  | cons call calls ih =>
    rw [List.foldl_cons, ih]
    cases call <;> simp [Recorder.observer]

theorem Workspace.writeAll_append {w w' w'' : Workspace} {xs ys : List (String × List UInt8)}
    (hxs : w.writeAll xs = .ok w') (hys : w'.writeAll ys = .ok w'') : w.writeAll (xs ++ ys) = .ok w'' := by
  induction xs generalizing w with
  | nil => exact Except.ok.inj hxs ▸ hys
  | cons x xs ih =>
    obtain ⟨between, hwrite, hrest⟩ := Workspace.writeAll_cons_eq_ok.1 hxs
    exact Workspace.writeAll_cons_eq_ok.2 ⟨between, hwrite, ih hrest⟩

namespace Run

/-! ## 1. The files of a run that succeeds -/

/-- The report of a result. -/
def reportOf (config : Config) (result : Result) : Report :=
  { project := result.project.name, graphFile := config.graphOutput, matrix := some result.matrix
    table := some result.table, top := config.top }

/-- The files to be written, in order; an empty path asks for none. -/
def artifacts (config : Config) (result : Result) (report : Loose) : List (String × List UInt8) :=
  [(config.graphOutput, (graphText result.graph).toBytes), (config.output, report.toBytes)].filter
    (·.1 ≠ "")

theorem map_fst_artifacts (config : Config) (result : Result) (report : Loose) :
    (artifacts config result report).map Prod.fst = paths config := by
  by_cases hgraph : config.graphOutput = "" <;> by_cases hreport : config.output = "" <;>
    simp [artifacts, paths, hgraph, hreport]

theorem filed_text {heading path : String} {text : Except Failure Loose} {files files' : Workspace}
    (h : filed heading path text files = .ok files') : ∃ t, path ≠ "" → text = .ok t := by
  cases text with
  | ok t => exact ⟨t, fun _ => rfl⟩
  | error f =>
    refine ⟨[], fun hpath => ?_⟩
    rw [filed, if_neg hpath] at h
    cases h

theorem filed_eq_ok {heading path : String} {text : Except Failure Loose} {t : Loose}
    {files files' : Workspace} (ht : path ≠ "" → text = .ok t)
    (h : filed heading path text files = .ok files') :
    files.writeAll ([(path, t.toBytes)].filter (·.1 ≠ "")) = .ok files' := by
  unfold filed at h
  by_cases hpath : path = ""
  · rw [if_pos hpath] at h
    rw [List.filter_cons_of_neg (by simpa using hpath), ← Except.ok.inj h]
    rfl
  · rw [if_neg hpath, ht hpath] at h
    rw [List.filter_cons_of_pos (by simpa using hpath)]
    exact Workspace.writeAll_cons_eq_ok.2 ⟨files', mapError_eq_ok.1 h, rfl⟩

/-- **The last step writes the artifacts**, the call graph before the report, and nothing else. -/
theorem stored_eq_ok {r : Request} {c : Computed} {files files' : Workspace}
    (h : stored c files = (.ok (), files')) :
    ∃ report, (c.config.output ≠ "" → (reportOf c.config (resultOf r c)).text = .ok report) ∧
      files.writeAll (artifacts c.config (resultOf r c) report) = .ok files' := by
  unfold stored at h
  split at h
  · cases h
  · next between hgraph =>
    split at h
    · cases h
    · next left hreport =>
      obtain ⟨-, rfl⟩ := Prod.mk.inj h
      obtain ⟨report, htext⟩ := filed_text hreport
      refine ⟨report, fun hpath => mapError_eq_ok.1 (htext hpath), ?_⟩
      have hrow := Workspace.writeAll_append (filed_eq_ok (fun _ => rfl) hgraph) (filed_eq_ok htext hreport)
      rwa [← List.filter_append] at hrow

/-! ## 2. The record of a run -/

/-- Settings fail because there are none, or because they name no policy. -/
theorem settings_eq_error {r : Request} {f : Failure} (h : settings r = .error f) :
    r.config = none ∧ f = .fault ∨
      ∃ config e, r.config = some config ∧ config.policy = .error e ∧ f = e.failure := by
  unfold settings at h
  cases hconfig : r.config with
  | none =>
    simp only [hconfig, Except.error.injEq] at h
    exact .inl ⟨rfl, h.symm⟩
  | some config =>
    cases hpolicy : config.policy with
    | error e =>
      simp only [hconfig, hpolicy, Except.mapError, Except.map, Except.error.injEq] at h
      exact .inr ⟨config, e, rfl, hpolicy, h.symm⟩
    | ok policy => simp [hconfig, hpolicy, Except.mapError, Except.map] at h

theorem settings_eq_ok {r : Request} {config : Config} {policy : Policy}
    (h : settings r = .ok (config, policy)) : r.config = some config ∧ config.policy = .ok policy := by
  unfold settings at h
  cases hconfig : r.config with
  | none => simp [hconfig] at h
  | some c =>
    cases hpolicy : c.policy with
    | error e => simp [hconfig, hpolicy, Except.mapError, Except.map] at h
    | ok p =>
      simp only [hconfig, hpolicy, Except.mapError, Except.map, Except.ok.injEq, Prod.mk.injEq] at h
      obtain ⟨rfl, rfl⟩ := h
      exact ⟨rfl, hpolicy⟩

theorem mem_announced {runId : String} {n : Nat} {s : Status} (h : .status s ∈ announced runId n) :
    s.runId = runId ∧ s.total = 4 := by
  obtain ⟨t, ht, heq⟩ := List.mem_map.1 h
  have hall : ∀ t ∈ announcements runId, t.runId = runId ∧ t.total = 4 := by
    simp [announcements, statusAt, totalSteps]
  exact Call.status.inj heq ▸ hall t (List.mem_of_mem_take ht)

/-- Every status of a run bears its name and the number of its steps. -/
theorem Ending.status_of_mem_calls {runId : String} {e : Ending} {s : Status}
    (h : .status s ∈ e.calls runId) : s.runId = runId ∧ s.total = 4 := by
  cases e with
  | failed step f =>
    obtain h | h := List.mem_append.1 h
    · exact mem_announced h
    · unfold complaint at h
      split at h
      · cases h
      · obtain rfl : s = errorStatus runId step f := by simpa using h
        exact ⟨rfl, rfl⟩
  | finished result =>
    obtain h | h := List.mem_append.1 h
    · exact mem_announced h
    · obtain rfl : s = readyStatus runId := by simpa using h
      exact ⟨rfl, rfl⟩

section

variable {r : Request} {cancelled : Nat → Bool} {files files' : Workspace}

/-- Nothing is announced before a failure only if the policy is none. -/
theorem failed_first_iff {step : Nat} {f : Failure}
    (h : ending r cancelled files = (.failed step f, files')) (hf : f.cause ≠ .fault) :
    step = 0 ↔ ∃ config e, r.config = some config ∧ config.policy = .error e := by
  obtain ⟨-, -, ⟨hstep, hbad⟩ | ⟨hstep, chosen, hgood⟩⟩ := ending_eq_failed h
  · obtain ⟨-, rfl⟩ | ⟨config, e, hconfig, hpolicy, -⟩ := settings_eq_error hbad
    · exact absurd rfl hf
    · exact ⟨fun _ => ⟨config, e, hconfig, hpolicy⟩, fun _ => hstep⟩
  · refine ⟨by omega, ?_⟩
    rintro ⟨config, e, hconfig, hpolicy⟩
    obtain ⟨hsome, hok⟩ := settings_eq_ok hgood
    rw [hconfig, Option.some.injEq] at hsome
    rw [← hsome, hpolicy] at hok
    cases hok

/-- A run that succeeds writes its artifacts. -/
theorem finished_artifacts {result : Result}
    (h : ending r cancelled files = (.finished result, files')) :
    ∃ config report, r.config = some config ∧
      result.written = [config.graphOutput, config.output].filter (· ≠ "") ∧
      (config.output ≠ "" → (reportOf config result).text = .ok report) ∧
      files.writeAll (artifacts config result report) = .ok files' := by
  obtain ⟨c, hcompute, hstored, rfl⟩ := ending_eq_finished h
  obtain ⟨policy, hsettings, -⟩ := compute_eq_ok hcompute
  obtain ⟨report, htext, hwritten⟩ := stored_eq_ok hstored
  exact ⟨c.config, report, (settings_eq_ok hsettings).1, rfl, htext, hwritten⟩

end

/-- Recorders that differ in what they fail to take are told alike, so the ending is the same one. -/
theorem perform_unheard (fails fails' : Status → Option Failure) (cancels : Status → Bool) (r : Request)
    (w : World Recorder) :
    (perform (Recorder.observer fails' cancels) r w).1 = (perform (Recorder.observer fails cancels) r w).1 ∧
      (perform (Recorder.observer fails' cancels) r w).2.files =
        (perform (Recorder.observer fails cancels) r w).2.files := by
  obtain ⟨houtcome, -, hfiles⟩ := perform_eq (Recorder.observer fails cancels) r w
  obtain ⟨houtcome', -, hfiles'⟩ := perform_eq (Recorder.observer fails' cancels) r w
  exact ⟨houtcome'.trans houtcome.symm, hfiles'.trans hfiles.symm⟩

/-- **A run keeps to its protocol, whatever becomes of its statuses.** It tells a first part of the
announcements and one error, or all of them, the result and that it is ready. A failure before the last step
leaves the files alone; after a success the files of the settings are there, and no others were written. -/
theorem perform_protocol (fails : Status → Option Failure) (cancels : Status → Bool) (r : Request)
    (w after : World Recorder) (outcome : Except Failure Result)
    (hrun : perform (Recorder.observer fails cancels) r w = (outcome, after)) :
    ∃ told, after.observer.calls = w.observer.calls ++ told ∧
      (∀ s, .status s ∈ told → s.runId = r.runId ∧ s.total = 4) ∧
      (∀ f, outcome = .error f → f.cause ≠ .fault →
        ∃ k ≤ 4, told = announced r.runId k ++ [.status (errorStatus r.runId k f)] ∧
          (k = 0 ↔ ∃ config e, r.config = some config ∧ config.policy = .error e) ∧
          (k ≤ 3 → after.files = w.files)) ∧
      (∀ result, outcome = .ok result →
        told = announced r.runId 4 ++ [.result result, .status (readyStatus r.runId)] ∧
        ∃ config report, r.config = some config ∧
          result.written = [config.graphOutput, config.output].filter (· ≠ "") ∧
          (config.output ≠ "" → (reportOf config result).text = .ok report) ∧
          w.files.writeAll (artifacts config result report) = .ok after.files ∧
          ∀ path ∈ result.written, after.files.Readable path) ∧
      ∀ fails', (perform (Recorder.observer fails' cancels) r w).1 = outcome ∧
        (perform (Recorder.observer fails' cancels) r w).2.files = after.files := by
  obtain ⟨houtcome, hobserver, hfiles⟩ := perform_eq (Recorder.observer fails cancels) r w
  rw [hrun] at houtcome hobserver hfiles
  dsimp only at houtcome hobserver hfiles
  generalize he : ending r (fun n => (Recorder.observer fails cancels).cancelled
    (heard (Recorder.observer fails cancels) r.runId w.observer n)) w.files = e at houtcome hobserver hfiles
  obtain ⟨e, files⟩ := e
  dsimp only at houtcome hobserver hfiles
  refine ⟨e.calls r.runId, ?_, fun s hs => Ending.status_of_mem_calls hs, ?_, ?_, ?_⟩
  · rw [hobserver, Recorder.calls_foldl_tell]
  · intro f hf hfault
    obtain ⟨k, rfl⟩ := Ending.outcome_eq_error (houtcome.symm.trans hf)
    obtain ⟨hle, hkept, -⟩ := ending_eq_failed he
    refine ⟨k, hle, ?_, failed_first_iff he hfault, fun hearly => hfiles.trans (hkept hearly)⟩
    rw [Ending.calls, complaint, if_neg hfault]
  · intro result hresult
    obtain rfl := Ending.outcome_eq_ok (houtcome.symm.trans hresult)
    obtain ⟨config, report, hconfig, hpaths, htext, hwritten⟩ := finished_artifacts he
    rw [← hfiles] at hwritten
    refine ⟨rfl, config, report, hconfig, hpaths, htext, hwritten, fun path hpath => ?_⟩
    rw [hpaths, ← paths, ← map_fst_artifacts config result report] at hpath
    obtain ⟨file, hfile, rfl⟩ := List.mem_map.1 hpath
    exact Workspace.readable_writeAll hwritten file hfile
  · intro fails'
    simpa only [hrun] using perform_unheard fails fails' cancels r w

/-- A request with one call, to a type outside the model. -/
def oneCall (output : String) : Request :=
  { source := .given (.ok { types := some [some { name := "A", methods := [some
      { name := "f", owner := "A"
        invocations := [some { method := "g", receiver := { declared := some { name := "B" } } }] }] }] })
    config := some { output, graphOutput := "graph.json", outOfSet := "drop" }
    runId := "1"
    reason := "test" }

/-- Nobody takes a status: a run succeeds all the same, and one whose report has no directory fails in its last
step, as they would if all were heard. -/
theorem perform_protocol_unheard :
    (∃ result after,
      perform (Recorder.observer (fun _ => some .cancelled) fun _ => false) (oneCall "report.md")
        { observer := {} } = (.ok result, after) ∧
      after.observer.calls = announced "1" 4 ++ [.result result, .status (readyStatus "1")] ∧
      result.written = ["graph.json", "report.md"] ∧ ∀ path ∈ result.written, after.files.Readable path) ∧
    ∃ f after,
      perform (Recorder.observer (fun _ => some .cancelled) fun _ => false) (oneCall "none/report.md")
        { observer := {} } = (.error f, after) ∧
      f.cause ≠ .fault ∧
      ∃ k ≤ 4, after.observer.calls = announced "1" k ++ [.status (errorStatus "1" k f)] := by
  constructor
  · have hok : (perform (Recorder.observer (fun _ => some .cancelled) fun _ => false) (oneCall "report.md")
        { observer := {} }).1.isOk = true := by decide +kernel
    cases hrun : perform (Recorder.observer (fun _ => some .cancelled) fun _ => false) (oneCall "report.md")
      { observer := {} } with
    | mk outcome after =>
      rw [hrun] at hok
      cases outcome with
      | error f => cases hok
      | ok result =>
        obtain ⟨told, hcalls, -, -, hsuccess, -⟩ := perform_protocol _ _ _ _ _ _ hrun
        obtain ⟨rfl, config, report, hconfig, hwritten, -, -, hread⟩ := hsuccess result rfl
        cases hconfig
        exact ⟨result, after, rfl, hcalls, hwritten, hread⟩
  · have hcause : ((perform (Recorder.observer (fun _ => some .cancelled) fun _ => false)
        (oneCall "none/report.md") { observer := {} }).1.mapError Failure.cause).map (fun _ => ()) =
          .error .notExist := by decide +kernel
    cases hrun : perform (Recorder.observer (fun _ => some .cancelled) fun _ => false)
      (oneCall "none/report.md") { observer := {} } with
    | mk outcome after =>
      rw [hrun] at hcause
      cases outcome with
      | ok result => cases hcause
      | error f =>
        have hf : f.cause = .notExist := Except.error.inj hcause
        obtain ⟨told, hcalls, -, hfailure, -⟩ := perform_protocol _ _ _ _ _ _ hrun
        obtain ⟨k, hk, rfl, -⟩ := hfailure f rfl (by rw [hf]; decide)
        exact ⟨f, after, rfl, by rw [hf]; decide, k, hk, hcalls⟩

end Run

end CallCoupling
