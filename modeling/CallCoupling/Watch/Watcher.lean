import CallCoupling.Watch.Change
import CallCoupling.Workspace

/-!
# The watcher

A watcher listens to the directory of the model file, so that it hears when the file is replaced.  It
collects the events about that file, apart by kind, and reports them when its window has passed: what
was removed before what was written.
-/

set_option autoImplicit false

namespace CallCoupling

/-- An event of a directory. -/
structure RawEvent where
  name : String
  /-- The operations, as bits. -/
  bits : Nat
deriving DecidableEq, Repr, Inhabited

/-- What is known about the watched file since the last report. -/
structure Watcher where
  /-- The watched file, as a clean absolute path. -/
  path : String
  removed : List String := []
  written : List String := []
deriving DecidableEq, Repr, Inhabited

namespace Watcher

/-- A watcher of a path that starts in the directory `home`. -/
def on (home path : String) : Watcher := { path := Path.absolute home path }

/-- The failure to listen to a directory. -/
def unwatchable (directory : String) (reason : FileReason) : Failure :=
  ⟨if reason = .missing then .notExist else .other,
    "failed to watch " ++ directory ++ ": " ++ reason.text⟩

/-- Start to watch a path; the directory that holds it must exist. -/
def start (files : Workspace) (path : String) : Except Failure Watcher :=
  let w := on files.homePath path
  match files.check (Path.parent w.path) with
  | .ok () => .ok w
  | .error reason => .error (unwatchable (Path.parent w.path) reason)

/-- The kind of change that an event says about the watched file, if it says any. -/
def kind? (w : Watcher) (e : RawEvent) : Option ChangeKind :=
  if Path.clean e.name = w.path then ChangeKind.ofBits? e.bits else none

/-- Collect an event. -/
def note (w : Watcher) (e : RawEvent) : Watcher :=
  match w.kind? e with
  | some .removed => { w with removed := w.removed ++ [e.name] }
  | some _ => { w with written := w.written ++ [e.name] }
  | none => w

/-- A change, unless there are no paths. -/
def changes (kind : ChangeKind) (paths : List String) : List Change :=
  if paths.isEmpty then [] else [{ kind, paths }]

/-- Report what was collected and start anew. -/
def flush (w : Watcher) : Watcher × List Change :=
  ({ w with removed := [], written := [] },
    changes .removed w.removed ++ changes .written w.written)

/-- What a watcher meets: an event, or the end of its window. -/
inductive Step where
  | event (e : RawEvent)
  | window
deriving DecidableEq, Repr

/-- One step of a watcher, with what it reports. -/
def step (w : Watcher) : Step → Watcher × List Change
  | .event e => (w.note e, [])
  | .window => w.flush

/-- All that a watcher reports over steps. -/
def run : Watcher → List Step → List Change
  | _, [] => []
  | w, s :: rest => (w.step s).2 ++ run (w.step s).1 rest

end Watcher

end CallCoupling
