import CallCoupling.Config.Load
import CallCoupling.Run.Basic
import CallCoupling.Watch.Watcher

/-!
# The command line

The command analyses one model: it reads flags, the environment and the optional file with settings, runs
the analysis, logs to the error stream and prints a summary.  `CommandLine.execute` does all of it on a
workspace, so a command is a function of its arguments and its files.
-/

set_option autoImplicit false

namespace CallCoupling.CommandLine

/-- The flags of the command. -/
def flags : List Flag :=
  [{ name := "output", letter := "o", kind := .text "results.md"
     usage := "Markdown report path (empty to skip)" },
   { name := "graph-output", kind := .text "class-call-output.json"
     usage := "Class call graph JSON path (empty to skip)" },
   { name := "out-of-set", kind := .text "drop"
     usage := "Calls to types outside the model: drop, grow or reject" },
   { name := "top", kind := .int 10
     usage := "Strongest couplings listed in the report and summary (0 for all)" },
   { name := "debug", letter := "d", kind := .bool false
     usage := "Log every method and invocation" },
   { name := "web", kind := .bool false, usage := "Serve the results over HTTP" },
   { name := "port", kind := .int 8080, usage := "Port for web server (only used with --web)" },
   { name := "watch", kind := .bool false
     usage := "Re-run the analysis when the model file changes" },
   { name := "open", kind := .bool false, usage := "Open the browser (only used with --web)" },
   { name := "verbose", letter := "v", kind := .count
     usage := "Increase verbosity (-v debug, -vv trace)" },
   { name := "verbosity", kind := .text ""
     usage := "Log level: trace, debug, info, warn, error" },
   { name := "log-format", kind := .text "compact", usage := "Log format: compact or json" }]

/-- How the command is used. -/
def usage : String :=
  "Usage: coupling-analyzer [flags] <model.json|model.yaml>\n\nFlags:\n" ++ Flags.usage flags

/-- What a command works on. -/
structure Input where
  args : List String := []
  environment : List (String × String) := []
  files : Workspace := {}
  runId : String := ""
  elapsed : Duration := ⟨0⟩

/-- What a command leaves. -/
structure Outcome where
  stdout : Loose := []
  /-- The help on the error stream. -/
  help : String := ""
  logger : Log.Logger := {}
  /-- The log on the error stream. -/
  notes : List Log.Note := []
  files : Workspace := {}
  failure : Option Failure := none
  /-- The watcher with which the command goes on. -/
  watching : Option Watcher := none

namespace Outcome

/-- The number that the command ends with. -/
def exitCode (o : Outcome) : Nat := if o.failure.isSome then 1 else 0

/-- The text on the error stream, every log line with the same time. -/
def stderr (o : Outcome) (time : String) : Loose :=
  Loose.ofString o.help ++ o.logger.lines time o.notes

end Outcome

/-- The text of the file with settings, if there is one. -/
def settingsFile (files : Workspace) : Except ConfigError (Option String) :=
  match files.read Config.fileName with
  | .ok bytes =>
    match (Loose.ofBytes bytes).text? with
    | some text => .ok (some text)
    | none => .error .brokenFile
  | .error e => if e.reason = .isDirectory then .error .brokenFile else .ok none

/-- The configuration of a command.  An argument that is no flag names the model file. -/
def configuration (s : Input) (p : Flags.Parsed) : Except ConfigError Config := do
  let file ← settingsFile s.files
  let config ← Config.load file s.environment p
  pure (match p.positional with
    | path :: _ => { config with source := path }
    | [] => config)

/-- The logger of a configuration: asking for details lowers the least level to that of details. -/
def loggerOf (c : Config) : Except Log.SetupError Log.Logger := do
  let least ← Log.Level.ofVerbosity c.verbosity c.verbose
  let least := if c.debug && Log.Level.debug < least then Log.Level.debug else least
  pure { format := ← Log.Format.named c.logFormat, least }

/-- What a command is to do, once it is understood. -/
structure Job where
  config : Config
  logger : Log.Logger

/-- Understand a command; one that cannot be understood, or only asks for help, is over. -/
def prepare (s : Input) : Except Outcome Job :=
  let failed (f : Failure) : Outcome := { files := s.files, failure := some f }
  match Flags.parse flags s.args with
  | .error .help => .error { files := s.files, help := usage }
  | .error e => .error (failed e.failure)
  | .ok parsed =>
    match configuration s parsed with
    | .error e => .error (failed e.failure)
    | .ok config =>
      if config.source = "" then .error { failed LoadError.noFile.failure with help := usage }
      else
        match loggerOf config with
        | .error e => .error (failed e.failure)
        | .ok logger => .ok { config, logger }

/-- Run the analysis once. -/
def analyse (s : Input) (j : Job) (reason : String) : Outcome :=
  let (result, w) := Run.perform Observer.deaf
    { source := Source.file j.config.source, config := some j.config, runId := s.runId, reason
      elapsed := s.elapsed } { observer := (), files := s.files }
  let o : Outcome := { logger := j.logger, notes := w.notes, files := w.files }
  match result with
  | .ok r => { o with stdout := r.summary.text j.config.top false }
  | .error f => { o with failure := some f }

/-- A failed run that does not end the command is only logged. -/
def Outcome.excused (o : Outcome) (message : String) : Outcome :=
  match o.failure with
  | none => o
  | some f =>
    { o with
      failure := none
      notes := o.notes ++ [Log.Note.plain Log.Level.error message [Run.errorAttr f]] }

/-- Go on watching the model after the first run; the command fails if the directory of the model cannot
be watched. -/
def watch (j : Job) (o : Outcome) : Outcome :=
  let o := o.excused "initial analysis failed"
  match Watcher.start o.files j.config.source with
  | .ok w =>
    { o with
      watching := some w
      notes := o.notes ++ [Log.Note.plain Log.Level.info "started watching model" [.text "path" w.path]] }
  | .error f => { o with failure := some f }

/-- React to a change of the model: run again, or keep the last results. -/
def react (s : Input) (j : Job) (c : Change) : Outcome :=
  if c.needsRun then (analyse s j c.reason).excused "analysis failed"
  else
    { logger := j.logger
      files := s.files
      notes := [Log.Note.plain Log.Level.warn "model file changed, keeping last results"
        [.text "reason" c.reason, ⟨"paths", .texts c.paths⟩]] }

/-- Execute the command. -/
def execute (s : Input) : Outcome :=
  match prepare s with
  | .error o => o
  | .ok j =>
    let o := analyse s j "initial analysis"
    if j.config.watch then watch j o else o

end CallCoupling.CommandLine
