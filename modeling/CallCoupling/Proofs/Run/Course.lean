import CallCoupling.Run.Basic
import CallCoupling.Proofs.Report.Printing
import Mathlib

/-!
# The course of a run

A run is a computation with exceptions over its surroundings: an observer that it talks to, files and a log.
Here the same run is described without them. What a run *computes* depends on three things only: the request,
the files it finds, and whether it is to be cancelled at the moments when it asks. `Run.ending` is that
function, and `Run.does_action` says that every run, whoever observes it,

* has the outcome of its ending and leaves its files,
* tells its observer the calls of its ending (`Ending.calls`) and nothing else, in order.

An ending is a failure in a step, or a result; so everything that a run may tell is in two lines of
`Ending.calls`. Whether the observer takes a status never enters: `Observer.tell` forgets it.

The log is left open throughout. `Run.Does` is the relation between a computation and what it does to the rest
of the surroundings, with one rule for each way to put computations together.
-/

set_option autoImplicit false

namespace CallCoupling

/-- What an observer has heard after a call. -/
def Observer.tell {σ : Type} (obs : Observer σ) (x : σ) : Call → σ
  | .status s => (obs.status s x).1
  | .result r => obs.result r x

@[simp] theorem Observer.tell_status {σ : Type} (obs : Observer σ) (x : σ) (s : Status) :
    obs.tell x (.status s) = (obs.status s x).1 := rfl

@[simp] theorem Observer.tell_result {σ : Type} (obs : Observer σ) (x : σ) (r : Result) :
    obs.tell x (.result r) = obs.result r x := rfl

namespace Run

/-! ## 1. The course, without surroundings -/

/-- A status of a run. -/
def statusAt (runId state : String) (message : Loose) (step : Nat) : Status :=
  { runId, state, message, step, total := totalSteps }

/-- What is told before each of the four steps. -/
def announcements (runId : String) : List Status :=
  [statusAt runId "loading" "Loading model..." 1,
    statusAt runId "call_graph" "Building class call graph..." 2,
    statusAt runId "coupling" "Computing class coupling..." 3,
    statusAt runId "writing" "Writing results..." 4]

/-- What is told of the first `n` steps. -/
def announced (runId : String) (n : Nat) : List Call := ((announcements runId).take n).map .status

/-- The status of a step that failed: its message is the text of the error. -/
def errorStatus (runId : String) (step : Nat) (f : Failure) : Status :=
  statusAt runId "error" f.message step

/-- The last status of a run that succeeded. -/
def readyStatus (runId : String) : Status := statusAt runId "ready" "Analysis complete" 4

/-- What is told of a failure; of a fault, nothing. -/
def complaint (runId : String) (step : Nat) (f : Failure) : List Call :=
  if f.cause = .fault then [] else [.status (errorStatus runId step f)]

/-- How a run ends. -/
inductive Ending where
  | failed (step : Nat) (f : Failure)
  | finished (result : Result)

namespace Ending

def outcome : Ending → Except Failure Result
  | .failed _ f => .error f
  | .finished result => .ok result

/-- All that is told in a run with this ending. -/
def calls (runId : String) : Ending → List Call
  | .failed step f => announced runId step ++ complaint runId step f
  | .finished result => announced runId 4 ++ [.result result, .status (readyStatus runId)]

theorem outcome_eq_error {e : Ending} {f : Failure} (h : e.outcome = .error f) :
    ∃ step, e = .failed step f := by
  cases e with
  | failed step g => exact ⟨step, by rw [Except.error.inj h]⟩
  | finished result => cases h

theorem outcome_eq_ok {e : Ending} {result : Result} (h : e.outcome = .ok result) :
    e = .finished result := by
  cases e with
  | failed step f => cases h
  | finished x => rw [Except.ok.inj h]

end Ending

/-- The model that a request names. -/
def loaded (r : Request) (cancelled : Bool) (files : Workspace) : Except Failure Project :=
  (r.source.load r.config cancelled files).2.mapError fun e =>
    e.failure.within (Loose.ofString ("loading model from " ++ r.source.name))

/-- A computation that is not begun if the run is to be cancelled. -/
def unlessCancelled {α : Type} (cancelled : Bool) (x : Except Failure α) : Except Failure α :=
  if cancelled then .error Failure.cancelled else x

/-- The call graph of a model. -/
def graphOf (cancelled : Bool) (p : Project) : Except Failure Graph :=
  unlessCancelled cancelled
    ((Graph.ofMethods p.methods Chain.standard).mapError ClassGraphError.failure)

/-- The coupling matrix of a model. -/
def matrixOf (cancelled : Bool) (policy : Policy) (p : Project) : Except Failure Matrix :=
  unlessCancelled cancelled
    ((Matrix.build p.typeList p.methods Chain.standard policy).mapError CouplingError.failure)

/-- What a run has in hand when it comes to write. -/
structure Computed where
  config : Config
  project : Project
  graph : Graph
  matrix : Matrix

/-- The first three steps; the failure of a step comes with its number, and that of the settings with zero.
    `cancelled n` says whether the run is to be cancelled when `n` steps have been announced. -/
def compute (r : Request) (cancelled : Nat → Bool) (files : Workspace) :
    Except (Nat × Failure) Computed := do
  let (config, policy) ← (settings r).mapError (0, ·)
  let project ← (loaded r (cancelled 1) files).mapError (1, ·)
  let graph ← (graphOf (cancelled 2) project).mapError (2, ·)
  let matrix ← (matrixOf (cancelled 3) policy project).mapError (3, ·)
  pure { config, project, graph, matrix }

/-- The files after a text is written at a path, if there is one. -/
def filed (heading path : String) (text : Except Failure Loose) (files : Workspace) :
    Except Failure Workspace :=
  if path = "" then .ok files
  else text.bind fun t =>
    (files.write path t.toBytes).mapError fun e => e.failure.within heading

/-- The text of the call graph. -/
def graphText (g : Graph) : Loose := Loose.ofString (g.document.toJson.indented ++ "\n")

/-- The text of the report. -/
def reportText (c : Computed) : Except Failure Loose :=
  let report : Report :=
    { project := c.project.name, graphFile := c.config.graphOutput, matrix := some c.matrix
      table := some c.matrix.table, top := c.config.top }
  report.text.mapError ReportError.failure

/-- The last step: the call graph is written before the report, and stays if the report fails. -/
def stored (c : Computed) (files : Workspace) : Except Failure Unit × Workspace :=
  match filed "writing call graph" c.config.graphOutput (.ok (graphText c.graph)) files with
  | .error f => (.error f, files)
  | .ok files =>
    match filed "writing report" c.config.output (reportText c) files with
    | .error f => (.error f, files)
    | .ok files => (.ok (), files)

/-- The paths that are to be written, in order. -/
def paths (config : Config) : List String := [config.graphOutput, config.output].filter (· ≠ "")

/-- The result of a run. -/
def resultOf (r : Request) (c : Computed) : Result :=
  { runId := r.runId, reason := r.reason, project := c.project, graph := c.graph, matrix := c.matrix
    written := paths c.config, elapsed := r.elapsed }

/-- How a run ends, and the files it leaves. -/
def ending (r : Request) (cancelled : Nat → Bool) (files : Workspace) : Ending × Workspace :=
  match compute r cancelled files with
  | .error (step, f) => (.failed step f, files)
  | .ok c =>
    match stored c files with
    | (.error f, files) => (.failed 4 f, files)
    | (.ok (), files) => (.finished (resultOf r c), files)

/-! ## 2. What a computation does -/

section

variable {σ α β : Type}

/-- **The computation ends with an outcome and leaves an observer and files.** What it logs is left open. -/
def Does (x : Action σ α) (w : World σ) (outcome : Except Failure α) (observer : σ)
    (files : Workspace) : Prop :=
  ∃ notes, x.run.run w = (outcome, { observer, files, notes })

theorem run_tryCatch (x : Action σ α) (k : Failure → Action σ α) (w : World σ) :
    (tryCatch x k).run.run w =
      match x.run.run w with
      | (.ok a, w') => (.ok a, w')
      | (.error f, w') => (k f).run.run w' := by
  simp only [ExceptT.run, StateT.run, tryCatch, tryCatchThe, MonadExceptOf.tryCatch, ExceptT.tryCatch,
    ExceptT.mk, bind, StateT.bind]
  rcases x w with ⟨_ | _, _⟩ <;> rfl

theorem Does.pure (a : α) (w : World σ) : Does (pure a) w (.ok a) w.observer w.files := ⟨w.notes, rfl⟩

theorem Does.bind {x : Action σ α} {k : α → Action σ β} {w : World σ} {a : α} {o o' : σ}
    {files files' : Workspace} {outcome : Except Failure β} (hx : Does x w (.ok a) o files)
    (hk : ∀ notes, Does (k a) { observer := o, files, notes } outcome o' files') :
    Does (x >>= k) w outcome o' files' := by
  obtain ⟨notes, hx⟩ := hx
  obtain ⟨notes', hk⟩ := hk notes
  exact ⟨notes', by rw [run_bind, hx]; exact hk⟩

theorem Does.bind_error {x : Action σ α} {k : α → Action σ β} {w : World σ} {f : Failure} {o : σ}
    {files : Workspace} (hx : Does x w (.error f) o files) : Does (x >>= k) w (.error f) o files := by
  obtain ⟨notes, hx⟩ := hx
  exact ⟨notes, by rw [run_bind, hx]⟩

theorem does_get (w : World σ) : Does get w (.ok w) w.observer w.files := ⟨w.notes, rfl⟩

theorem does_set (w w' : World σ) : Does (set w') w (.ok ()) w'.observer w'.files := ⟨w'.notes, rfl⟩

theorem does_throw (f : Failure) (w : World σ) :
    Does (throw f : Action σ α) w (.error f) w.observer w.files := ⟨w.notes, rfl⟩

theorem does_log (notes : List Log.Note) (w : World σ) : Does (log notes) w (.ok ()) w.observer w.files :=
  ⟨w.notes ++ notes, rfl⟩

theorem does_lift {ε : Type} (failure : ε → Failure) (x : Except ε α) (w : World σ) :
    Does (lift failure x) w (x.mapError failure) w.observer w.files := by
  cases x with
  | ok a => exact Does.pure a w
  | error e => exact does_throw (failure e) w

/-- A status is told, whether it is taken or not. -/
theorem does_announce (obs : Observer σ) (runId state : String) (message : Loose) (step : Nat) (w : World σ) :
    Does (announce obs runId state message step) w (.ok ())
      (obs.tell w.observer (.status (statusAt runId state message step))) w.files := by
  unfold announce
  refine Does.bind (does_get w) fun notes => ?_
  rw [Observer.tell_status, statusAt]
  generalize obs.status _ w.observer = answer
  obtain ⟨observer, failed⟩ := answer
  refine Does.bind (does_set _ { w with observer }) fun notes => ?_
  cases failed with
  | none => exact Does.pure () _
  | some f => exact does_log _ _

/-- A step that succeeds is told nothing of. -/
theorem Does.during_ok {obs : Observer σ} {runId : String} {work : Action σ α} {w : World σ} {a : α}
    {o : σ} {files : Workspace} (hwork : Does work w (.ok a) o files) (step : Nat) :
    Does (during obs runId step work) w (.ok a) o files := by
  obtain ⟨notes, hwork⟩ := hwork
  exact ⟨notes, by rw [Run.during, run_tryCatch, hwork]⟩

/-- **A step that fails is complained of**, and the failure goes on. -/
theorem Does.during_error {obs : Observer σ} {runId : String} {work : Action σ α} {w : World σ}
    {f : Failure} {o : σ} {files : Workspace} (hwork : Does work w (.error f) o files) (step : Nat) :
    Does (during obs runId step work) w (.error f) ((complaint runId step f).foldl obs.tell o) files := by
  obtain ⟨notes, hwork⟩ := hwork
  unfold Does Run.during complaint
  rw [run_tryCatch, hwork]
  by_cases hfault : f.cause = .fault
  · simp only [if_pos hfault]
    exact does_throw f _
  · simp only [if_neg hfault]
    refine Does.bind (does_log _ _) fun _ => ?_
    exact Does.bind (does_announce obs runId "error" f.message step _) fun _ => does_throw f _

/-! ## 3. The steps of a run -/

theorem does_loadModel (obs : Observer σ) (r : Request) (w : World σ) :
    Does (loadModel obs r) w (loaded r (obs.cancelled w.observer) w.files) w.observer w.files := by
  unfold loadModel loaded
  refine Does.bind (does_get w) fun notes => ?_
  generalize r.source.load r.config (obs.cancelled w.observer) w.files = answer
  obtain ⟨more, project⟩ := answer
  exact Does.bind (does_log more _) fun _ => does_lift _ project _

theorem does_checkCancelled (obs : Observer σ) (w : World σ) :
    Does (checkCancelled obs) w (unlessCancelled (obs.cancelled w.observer) (.ok ())) w.observer
      w.files := by
  unfold checkCancelled unlessCancelled
  refine Does.bind (does_get w) fun notes => ?_
  cases obs.cancelled w.observer with
  | true => exact does_throw _ _
  | false => exact Does.pure () _

/-- What comes after the question whether to go on. -/
theorem Does.afterCheck {obs : Observer σ} {work : Action σ α} {w : World σ} {x : Except Failure α}
    (hwork : ∀ notes, Does work { w with notes } x w.observer w.files) :
    Does (do checkCancelled obs; work) w (unlessCancelled (obs.cancelled w.observer) x) w.observer
      w.files := by
  have hcheck := does_checkCancelled obs w
  unfold unlessCancelled at hcheck ⊢
  cases hcancelled : obs.cancelled w.observer with
  | true =>
    rw [hcancelled] at hcheck
    exact hcheck.bind_error
  | false =>
    rw [hcancelled] at hcheck
    exact hcheck.bind hwork

theorem does_buildGraph (obs : Observer σ) (runId : String) (p : Project) (w : World σ) :
    Does (buildGraph obs runId p) w (graphOf (obs.cancelled w.observer) p) w.observer w.files := by
  refine Does.afterCheck fun notes => ?_
  cases Graph.ofMethods p.methods Chain.standard with
  | error e => exact (does_lift _ (.error e) _).bind_error
  | ok g => exact (does_lift _ (.ok g) _).bind fun _ => (does_log _ _).bind fun _ => Does.pure g _

theorem does_countCoupling (obs : Observer σ) (runId : String) (policy : Policy) (p : Project)
    (w : World σ) :
    Does (countCoupling obs runId policy p) w (matrixOf (obs.cancelled w.observer) policy p) w.observer
      w.files := by
  refine Does.afterCheck fun notes => ?_
  refine Does.bind (does_log _ _) fun notes => ?_
  cases Matrix.build p.typeList p.methods Chain.standard policy with
  | error e => exact (does_lift _ (.error e) _).bind_error
  | ok m =>
    refine (does_lift _ (.ok m) _).bind fun notes => ?_
    by_cases hdropped : 0 < m.dropped
    · simp only [if_pos hdropped]
      exact (does_log _ _).bind fun _ => Does.pure m _
    · simp only [if_neg hdropped]
      exact Does.pure m _

/-- A file is written whole or not at all. -/
theorem does_writeFile (heading path : String) (text : Except Failure Loose) (w : World σ) :
    Does (writeFile heading path text) w
      ((filed heading path text w.files).map fun _ => [path].filter (· ≠ "")) w.observer
      ((filed heading path text w.files).toOption.getD w.files) := by
  unfold writeFile filed
  by_cases hpath : path = ""
  · simp only [if_pos hpath]
    simpa [hpath, Except.map, Except.toOption] using Does.pure ([] : List String) w
  · simp only [if_neg hpath]
    cases text with
    | error f => exact (does_lift id (.error f) _).bind_error
    | ok t =>
      refine (does_lift id (.ok t) _).bind fun notes => ?_
      refine (does_get _).bind fun notes => ?_
      show Does _ _ (Except.map _ ((w.files.write path t.toBytes).mapError _)) _
        (((w.files.write path t.toBytes).mapError _).toOption.getD _)
      cases w.files.write path t.toBytes with
      | error e => exact (does_lift _ (.error e) _).bind_error
      | ok files =>
        refine (does_lift _ (.ok files) _).bind fun notes => ?_
        refine (does_set _ _).bind fun notes => ?_
        rw [show [path].filter (· ≠ "") = [path] by simp [hpath]]
        exact Does.pure [path] _

theorem does_writeResults (c : Computed) (w : World σ) :
    Does (writeResults c.config c.project c.graph c.matrix) w
      ((stored c w.files).1.map fun _ => paths c.config) w.observer (stored c w.files).2 := by
  unfold writeResults stored
  have hgraph := does_writeFile "writing call graph" c.config.graphOutput (.ok (graphText c.graph)) w
  cases hg : filed "writing call graph" c.config.graphOutput (.ok (graphText c.graph)) w.files with
  | error f =>
    rw [hg] at hgraph
    exact hgraph.bind_error
  | ok files =>
    rw [hg] at hgraph
    refine hgraph.bind fun notes => ?_
    have hreport := does_writeFile "writing report" c.config.output (reportText c)
      { w with files, notes }
    simp only at hreport ⊢
    cases hr : filed "writing report" c.config.output (reportText c) files with
    | error f =>
      rw [hr] at hreport
      exact hreport.bind_error
    | ok files' =>
      rw [hr] at hreport
      refine hreport.bind fun notes => ?_
      have hpaths : paths c.config =
          [c.config.graphOutput].filter (· ≠ "") ++ [c.config.output].filter (· ≠ "") := by
        rw [← List.filter_append]
        rfl
      simp only [Except.map, hpaths]
      exact Does.pure _ _

/-- What the observer has heard when `n` steps have been announced. -/
def heard (obs : Observer σ) (runId : String) (x : σ) (n : Nat) : σ :=
  (announced runId n).foldl obs.tell x

/-- A step that succeeds leads to what follows it. -/
theorem Does.stage_ok {obs : Observer σ} {runId state : String} {message : Loose} (step : Nat) {x : σ}
    {work : Action σ α} {k : α → Action σ β} {files files' files'' : Workspace} {notes : List Log.Note}
    {a : α} {outcome : Except Failure β} {o : σ}
    (hheard : heard obs runId x (step + 1) =
      obs.tell (heard obs runId x step) (.status (statusAt runId state message (step + 1))))
    (hwork : ∀ notes, Does work { observer := heard obs runId x (step + 1), files, notes } (.ok a)
      (heard obs runId x (step + 1)) files')
    (hk : ∀ notes, Does (k a) { observer := heard obs runId x (step + 1), files := files', notes } outcome o
      files'') :
    Does (do
      announce obs runId state message (step + 1 : Nat)
      let a ← during obs runId (step + 1 : Nat) work
      k a) { observer := heard obs runId x step, files, notes } outcome o files'' := by
  refine (does_announce obs runId state message (step + 1) _).bind fun notes => ?_
  rw [← hheard]
  exact ((hwork notes).during_ok (step + 1)).bind hk

/-- A step that fails ends the run with its complaint. -/
theorem Does.stage_error {obs : Observer σ} {runId state : String} {message : Loose} (step : Nat) {x : σ}
    {work : Action σ α} {k : α → Action σ β} {files files' : Workspace} {notes : List Log.Note}
    {f : Failure}
    (hheard : heard obs runId x (step + 1) =
      obs.tell (heard obs runId x step) (.status (statusAt runId state message (step + 1))))
    (hwork : ∀ notes, Does work { observer := heard obs runId x (step + 1), files, notes } (.error f)
      (heard obs runId x (step + 1)) files') :
    Does (do
      announce obs runId state message (step + 1 : Nat)
      let a ← during obs runId (step + 1 : Nat) work
      k a) { observer := heard obs runId x step, files, notes } (.error f)
      (((Ending.failed (step + 1) f).calls runId).foldl obs.tell x) files' := by
  refine (does_announce obs runId state message (step + 1) _).bind fun notes => ?_
  rw [← hheard, Ending.calls, List.foldl_append]
  exact ((hwork notes).during_error (step + 1)).bind_error

/-- The end of a run that succeeds: the result is told, and then that it is ready. -/
theorem does_finish (obs : Observer σ) (r : Request) (result : Result) (last : List Log.Note)
    (w : World σ) :
    Does (do
      modify fun w => { w with observer := obs.result result w.observer }
      announce obs r.runId "ready" "Analysis complete" totalSteps
      log last
      pure result) w (.ok result)
      ([Call.result result, .status (readyStatus r.runId)].foldl obs.tell w.observer) w.files := by
  have htell : Does (modify fun w => { w with observer := obs.result result w.observer }) w (.ok ())
      (obs.result result w.observer) w.files := ⟨w.notes, rfl⟩
  refine htell.bind fun notes => ?_
  refine (does_announce obs r.runId "ready" "Analysis complete" 4 _).bind fun notes => ?_
  exact (does_log last _).bind fun _ => Does.pure result _

/-- **A run has the outcome of its ending, leaves its files, and tells its calls.** -/
theorem does_action (obs : Observer σ) (r : Request) (w : World σ) :
    let e := ending r (fun n => obs.cancelled (heard obs r.runId w.observer n)) w.files
    Does (action obs r) w e.1.outcome ((e.1.calls r.runId).foldl obs.tell w.observer) e.2 := by
  -- One case split for each step, in the order of the run; in each the failure ends it.
  intro e
  unfold action
  refine (does_log _ w).bind fun notes => ?_
  have hsettings := does_lift id (settings r) { w with notes }
  cases hs : settings r with
  | error f =>
    have he : e = (.failed 0 f, w.files) := by
      simp [e, ending, compute, hs, bind, Except.bind, Except.mapError]
    rw [hs] at hsettings
    rw [he]
    exact (hsettings.during_error 0).bind_error
  | ok chosen =>
    obtain ⟨config, policy⟩ := chosen
    rw [hs] at hsettings
    refine (hsettings.during_ok 0).bind fun notes => ?_
    have hload := fun notes => does_loadModel obs r
      { observer := heard obs r.runId w.observer 1, files := w.files, notes }
    cases hl : loaded r (obs.cancelled (heard obs r.runId w.observer 1)) w.files with
    | error f =>
      have he : e = (.failed 1 f, w.files) := by
        simp [e, ending, compute, hs, hl, bind, Except.bind, Except.mapError]
      rw [he]
      exact Does.stage_error 0 rfl fun notes => hl ▸ hload notes
    | ok project =>
      refine Does.stage_ok 0 rfl (fun notes => hl ▸ hload notes) fun notes => ?_
      have hbuild := fun notes => does_buildGraph obs r.runId project
        { observer := heard obs r.runId w.observer 2, files := w.files, notes }
      cases hg : graphOf (obs.cancelled (heard obs r.runId w.observer 2)) project with
      | error f =>
        have he : e = (.failed 2 f, w.files) := by
          simp [e, ending, compute, hs, hl, hg, bind, Except.bind, Except.mapError]
        rw [he]
        exact Does.stage_error 1 rfl fun notes => hg ▸ hbuild notes
      | ok graph =>
        refine Does.stage_ok 1 rfl (fun notes => hg ▸ hbuild notes) fun notes => ?_
        have hcount := fun notes => does_countCoupling obs r.runId policy project
          { observer := heard obs r.runId w.observer 3, files := w.files, notes }
        cases hm : matrixOf (obs.cancelled (heard obs r.runId w.observer 3)) policy project with
        | error f =>
          have he : e = (.failed 3 f, w.files) := by
            simp [e, ending, compute, hs, hl, hg, hm, bind, Except.bind, Except.mapError]
          rw [he]
          exact Does.stage_error 2 rfl fun notes => hm ▸ hcount notes
        | ok matrix =>
          refine Does.stage_ok 2 rfl (fun notes => hm ▸ hcount notes) fun notes => ?_
          have hcompute : compute r (fun n => obs.cancelled (heard obs r.runId w.observer n)) w.files =
              .ok { config, project, graph, matrix } := by
            simp [compute, hs, hl, hg, hm, bind, Except.bind, Except.mapError, pure, Except.pure]
          have hwrite := fun notes => does_writeResults { config, project, graph, matrix }
            { observer := heard obs r.runId w.observer 4, files := w.files, notes }
          cases hw : stored { config, project, graph, matrix } w.files with
          | mk written files =>
            simp only [hw] at hwrite
            cases written with
            | error f =>
              have he : e = (.failed 4 f, files) := by simp only [e, ending, hcompute, hw]
              rw [he]
              exact Does.stage_error 3 rfl hwrite
            | ok _ =>
              have he : e = (.finished (resultOf r { config, project, graph, matrix }), files) := by
                simp only [e, ending, hcompute, hw]
              rw [he]
              refine Does.stage_ok 3 rfl hwrite fun notes => ?_
              exact does_finish obs r (resultOf r { config, project, graph, matrix }) _ _

end

/-! ## 4. Endings -/

section

variable {r : Request} {cancelled : Nat → Bool} {files files' : Workspace}

theorem mapError_eq_ok {ε ε' α : Type} {failure : ε → ε'} {x : Except ε α} {a : α} :
    x.mapError failure = .ok a ↔ x = .ok a := by
  cases x <;> simp [Except.mapError]

theorem numbered_bind_eq_ok {α β : Type} {x : Except Failure α} {k : α → Except (Nat × Failure) β}
    {n : Nat} {b : β} : (x.mapError (n, ·) >>= k) = .ok b ↔ ∃ a, x = .ok a ∧ k a = .ok b := by
  cases x <;> simp [bind, Except.bind, Except.mapError]

theorem numbered_bind_eq_error {α β : Type} {x : Except Failure α} {k : α → Except (Nat × Failure) β}
    {n step : Nat} {f : Failure} :
    (x.mapError (n, ·) >>= k) = .error (step, f) ↔
      step = n ∧ x = .error f ∨ ∃ a, x = .ok a ∧ k a = .error (step, f) := by
  cases x <;> simp [bind, Except.bind, Except.mapError, eq_comm]

theorem compute_eq_ok {c : Computed} (h : compute r cancelled files = .ok c) :
    ∃ policy, settings r = .ok (c.config, policy) ∧ loaded r (cancelled 1) files = .ok c.project ∧
      graphOf (cancelled 2) c.project = .ok c.graph ∧
      matrixOf (cancelled 3) policy c.project = .ok c.matrix := by
  obtain ⟨⟨config, policy⟩, hs, h⟩ := numbered_bind_eq_ok.1 h
  obtain ⟨project, hl, h⟩ := numbered_bind_eq_ok.1 h
  obtain ⟨graph, hg, h⟩ := numbered_bind_eq_ok.1 h
  obtain ⟨matrix, hm, h⟩ := numbered_bind_eq_ok.1 h
  cases h
  exact ⟨policy, hs, hl, hg, hm⟩

/-- A failure before the last step; it is one of the settings only if it comes first. -/
theorem compute_eq_error {step : Nat} {f : Failure} (h : compute r cancelled files = .error (step, f)) :
    step ≤ 3 ∧ (step = 0 ∧ settings r = .error f ∨ 0 < step ∧ ∃ chosen, settings r = .ok chosen) := by
  obtain ⟨rfl, hs⟩ | ⟨chosen, hs, h⟩ := numbered_bind_eq_error.1 h
  · exact ⟨by omega, .inl ⟨rfl, hs⟩⟩
  suffices hstep : 0 < step ∧ step ≤ 3 from ⟨hstep.2, .inr ⟨hstep.1, chosen, hs⟩⟩
  obtain ⟨rfl, -⟩ | ⟨project, -, h⟩ := numbered_bind_eq_error.1 h
  · omega
  obtain ⟨rfl, -⟩ | ⟨graph, -, h⟩ := numbered_bind_eq_error.1 h
  · omega
  obtain ⟨rfl, -⟩ | ⟨matrix, -, h⟩ := numbered_bind_eq_error.1 h
  · omega
  cases h

theorem ending_eq_finished {result : Result}
    (h : ending r cancelled files = (.finished result, files')) :
    ∃ c, compute r cancelled files = .ok c ∧ stored c files = (.ok (), files') ∧ result = resultOf r c := by
  unfold ending at h
  cases hc : compute r cancelled files with
  | error failure => simp [hc] at h
  | ok c =>
    rw [hc] at h
    cases hw : stored c files with
    | mk written left =>
      cases written with
      | error f => simp [hw] at h
      | ok _ =>
        simp only [hw, Prod.mk.injEq, Ending.finished.injEq] at h
        exact ⟨c, rfl, by rw [hw, h.2], h.1.symm⟩

/-- **A run that failed before it came to write left the files alone.** -/
theorem ending_eq_failed {step : Nat} {f : Failure}
    (h : ending r cancelled files = (.failed step f, files')) :
    step ≤ 4 ∧ (step ≤ 3 → files' = files) ∧
      (step = 0 ∧ settings r = .error f ∨ 0 < step ∧ ∃ chosen, settings r = .ok chosen) := by
  unfold ending at h
  cases hc : compute r cancelled files with
  | error failure =>
    simp only [hc, Prod.mk.injEq, Ending.failed.injEq] at h
    obtain ⟨⟨rfl, rfl⟩, rfl⟩ := h
    obtain ⟨hstep, hsettings⟩ := compute_eq_error hc
    exact ⟨by omega, fun _ => rfl, hsettings⟩
  | ok c =>
    obtain ⟨policy, hsettings, -⟩ := compute_eq_ok hc
    rw [hc] at h
    cases hw : stored c files with
    | mk written left =>
      cases written with
      | ok _ => simp [hw] at h
      | error f =>
        simp only [hw, Prod.mk.injEq, Ending.failed.injEq] at h
        obtain ⟨⟨rfl, rfl⟩, rfl⟩ := h
        exact ⟨le_rfl, by omega, .inr ⟨by omega, _, hsettings⟩⟩

end

/-- **What a run does**, as its ending says it. -/
theorem perform_eq {σ : Type} (obs : Observer σ) (r : Request) (w : World σ) :
    let e := ending r (fun n => obs.cancelled (heard obs r.runId w.observer n)) w.files
    (perform obs r w).1 = e.1.outcome ∧
      (perform obs r w).2.observer = (e.1.calls r.runId).foldl obs.tell w.observer ∧
      (perform obs r w).2.files = e.2 := by
  intro e
  obtain ⟨notes, h⟩ := does_action obs r w
  rw [perform, h]
  exact ⟨rfl, rfl, rfl⟩

end Run

end CallCoupling
