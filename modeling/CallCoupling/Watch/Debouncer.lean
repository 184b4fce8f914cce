import CallCoupling.Watch.Change

/-!
# The debouncer

A debouncer collects changes until none has come for a quiet period, or until a deadline after the first
of them, and then reports them as one: the kind of the last change, and every path once, in the order
of first mention.
-/

set_option autoImplicit false

namespace CallCoupling

/-- Collected changes and the timers that run. -/
structure Debouncer where
  collected : List Change := []
  /-- Does the timer of the quiet period run? -/
  quiet : Bool := false
  /-- Does the timer of the deadline run? -/
  deadline : Bool := false
deriving DecidableEq, Repr, Inhabited

namespace Debouncer

/-- Every item once, in the order of first mention. -/
def distinct (xs : List String) : List String :=
  xs.foldl (fun seen x => if x ∈ seen then seen else seen ++ [x]) []

/-- Changes as one change; nothing for none. -/
def merge? (cs : List Change) : Option Change :=
  cs.getLast?.map fun last => { kind := last.kind, paths := distinct (cs.flatMap Change.paths) }

/-- What a debouncer meets. -/
inductive Step where
  | change (c : Change)
  /-- The quiet period has passed. -/
  | quiet
  /-- The deadline has passed. -/
  | deadline
  /-- The changes end, or the work is cancelled. -/
  | stop
deriving DecidableEq, Repr

/-- Report what was collected and stop the timers. -/
def flush (d : Debouncer) : Debouncer × List Change := ({}, (merge? d.collected).toList)

/-- One step of a debouncer, with what it reports.  A timer that does not run has no effect. -/
def step (d : Debouncer) : Step → Debouncer × List Change
  | .change c => ({ collected := d.collected ++ [c], quiet := true, deadline := true }, [])
  | .quiet => if d.quiet then d.flush else (d, [])
  | .deadline => if d.deadline then d.flush else (d, [])
  | .stop => d.flush

/-- All that a debouncer reports over steps. -/
def run : Debouncer → List Step → List Change
  | _, [] => []
  | d, s :: rest => (d.step s).2 ++ run (d.step s).1 rest

end Debouncer

end CallCoupling
