import CallCoupling.Json.Writer
import CallCoupling.Model.Source
import CallCoupling.Report.Markdown
import CallCoupling.Run.Observer

/-!
# Runs

A run loads a model, builds its call graph, counts its coupling and writes the results.  Each of the four
steps is announced before it starts.  The first step that fails ends the run with an error status; a run
that succeeds tells its result and then that it is ready.

The computation is an exception monad over the state of the surroundings, so an error keeps all that
happened before it.
-/

set_option autoImplicit false

namespace CallCoupling.Run

/-- What a run is asked to do. -/
structure Request where
  source : Source
  /-- The settings; a run without any meets a fault. -/
  config : Option Config
  runId : String
  reason : String
  /-- How long the run takes. -/
  elapsed : Duration := ⟨0⟩

/-- The surroundings of a run. -/
structure World (σ : Type) where
  observer : σ
  files : Workspace := {}
  notes : List Log.Note := []

/-- A computation in the surroundings of a run. -/
abbrev Action (σ α : Type) := ExceptT Failure (StateM (World σ)) α

section

variable {σ : Type}

/-- How many steps a run has. -/
def totalSteps : Int := 4

/-- Leave notes in the log. -/
def log (notes : List Log.Note) : Action σ Unit :=
  modify fun w => { w with notes := w.notes ++ notes }

/-- A note of a run. -/
def note (runId : String) (level : Log.Level) (message : String) (attrs : List Log.Attr) : Log.Note :=
  { attached := Log.Note.component "analysis" ++ [.text "run" runId]
    entry := { level, message, attrs } }

/-- An attribute with an error. -/
def errorAttr (f : Failure) : Log.Attr := ⟨"error", .error f.message⟩

/-- Tell the observer a status.  If it does not take it the log says so. -/
def announce (obs : Observer σ) (runId state : String) (message : Loose) (step : Int) : Action σ Unit := do
  let w ← get
  let (observer, failed) := obs.status { runId, state, message, step, total := totalSteps } w.observer
  set { w with observer }
  match failed with
  | none => pure ()
  | some f => log [note runId Log.Level.warn "Could not publish status" [.text "state" state, errorAttr f]]

/-- Do a step; if it fails, say so in the log and to the observer.  A fault is told to nobody. -/
def during (obs : Observer σ) (runId : String) (step : Int) {α : Type} (work : Action σ α) :
    Action σ α :=
  tryCatch work fun f => do
    unless f.cause = .fault do
      log [note runId Log.Level.error "Analysis failed" [.whole "step" step, errorAttr f]]
      announce obs runId "error" f.message step
    throw f

/-- A value or a failure as a computation. -/
def lift {ε α : Type} (failure : ε → Failure) (x : Except ε α) : Action σ α :=
  match x with
  | .ok a => pure a
  | .error e => throw (failure e)

/-- Fail if the run is to be cancelled. -/
def checkCancelled (obs : Observer σ) : Action σ Unit := do
  if obs.cancelled (← get).observer then throw Failure.cancelled

/-- Load the model. -/
def loadModel (obs : Observer σ) (r : Request) : Action σ Project := do
  let w ← get
  let (notes, outcome) := r.source.load r.config (obs.cancelled w.observer) w.files
  log notes
  lift (fun e => e.failure.within (Loose.ofString ("loading model from " ++ r.source.name))) outcome

/-- Build the call graph. -/
def buildGraph (obs : Observer σ) (runId : String) (p : Project) : Action σ Graph := do
  checkCancelled obs
  let g ← lift ClassGraphError.failure (Graph.ofMethods p.methods Chain.standard)
  log [note runId Log.Level.info "Call graph built" [.whole "nodes" g.size, .whole "links" g.linkCount]]
  pure g

/-- What the log says about a step of the count. -/
def countNote (s : Matrix.CountStep) : Log.Note :=
  let say := Log.Note.of "coupling" Log.Level.debug
  match s with
  | .method label owner => say "method" [.text "signature" label, .text "type" owner]
  | .invocation receiver method => say "invocation" [.text "receiver" receiver, .text "method" method]
  | .dropped count => say "dropped out-of-set counts" [.whole "count" count]

/-- Count the coupling. -/
def countCoupling (obs : Observer σ) (runId : String) (policy : Policy) (p : Project) :
    Action σ Matrix := do
  checkCancelled obs
  log ((Matrix.trace p.typeList p.methods Chain.standard policy).map countNote)
  let m ← lift CouplingError.failure (Matrix.build p.typeList p.methods Chain.standard policy)
  if 0 < m.dropped then
    log [note runId Log.Level.info "Calls outside the analyzed types not counted"
      [.whole "count" m.dropped]]
  pure m

/-- Write a text into a file, unless its path is empty; the paths written are given back. -/
def writeFile (heading path : String) (text : Except Failure Loose) : Action σ (List String) := do
  if path = "" then pure []
  else
    let text ← lift id text
    let w ← get
    let files ← lift (fun e => (FileError.failure e).within heading)
      (w.files.write path text.toBytes)
    set { w with files }
    pure [path]

/-- Write the call graph and the report. -/
def writeResults (config : Config) (p : Project) (g : Graph) (m : Matrix) :
    Action σ (List String) := do
  let graph ← writeFile "writing call graph" config.graphOutput
    (.ok (Loose.ofString (g.document.toJson.indented ++ "\n")))
  let report : Report :=
    { project := p.name, graphFile := config.graphOutput, matrix := some m, table := some m.table
      top := config.top }
  let text ← writeFile "writing report" config.output (report.text.mapError ReportError.failure)
  pure (graph ++ text)

/-- The settings of a request with the policy they name. -/
def settings (r : Request) : Except Failure (Config × Policy) :=
  match r.config with
  | none => .error .fault
  | some c => (c.policy.mapError PolicyError.failure).map fun p => (c, p)

/-- The whole run. -/
def action (obs : Observer σ) (r : Request) : Action σ Result := do
  let stage {α : Type} (step : Int) (work : Action σ α) := during obs r.runId step work
  log [note r.runId Log.Level.info "Starting analysis"
    [.text "reason" r.reason, .text "source" r.source.name]]
  let (config, policy) ← stage 0 (lift id (settings r))
  announce obs r.runId "loading" "Loading model..." 1
  let project ← stage 1 (loadModel obs r)
  announce obs r.runId "call_graph" "Building class call graph..." 2
  let graph ← stage 2 (buildGraph obs r.runId project)
  announce obs r.runId "coupling" "Computing class coupling..." 3
  let matrix ← stage 3 (countCoupling obs r.runId policy project)
  announce obs r.runId "writing" "Writing results..." 4
  let written ← stage 4 (writeResults config project graph matrix)
  let result : Result :=
    { runId := r.runId, reason := r.reason, project, graph, matrix, written, elapsed := r.elapsed }
  modify fun w => { w with observer := obs.result result w.observer }
  announce obs r.runId "ready" "Analysis complete" totalSteps
  log [note r.runId Log.Level.info "Analysis complete"
    [.whole "types" project.typeList.length, .whole "pairs" result.table.pairs.length,
      .whole "durationMs" r.elapsed.milliseconds]]
  pure result

end

/-- Run an analysis in its surroundings. -/
def perform {σ : Type} (obs : Observer σ) (r : Request) (w : World σ) :
    Except Failure Result × World σ :=
  (action obs r).run.run w

end CallCoupling.Run
