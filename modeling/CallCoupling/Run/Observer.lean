import CallCoupling.Event.Notice
import CallCoupling.Log.Logger
import CallCoupling.Run.Result
import CallCoupling.Workspace

/-!
# Observers of a run

An observer is told the progress of a run and its result.  It may fail to take a status, which is noted in
the log and changes nothing else, and it may ask that the run be cancelled.
-/

set_option autoImplicit false

namespace CallCoupling

/-- Who is told about a run, with a state of type `σ`. -/
structure Observer (σ : Type) where
  /-- Take a status; the failure to take it is given back. -/
  status : Status → σ → σ × Option Failure
  /-- Take the result of a run that succeeded. -/
  result : Result → σ → σ
  /-- Is the run to be cancelled? -/
  cancelled : σ → Bool

namespace Observer

/-- The observer that hears nothing. -/
def deaf : Observer Unit where
  status _ s := (s, none)
  result _ s := s
  cancelled _ := false

end Observer

/-- What an observer was told. -/
inductive Call where
  | status (s : Status)
  | result (r : Result)

/-- An observer that keeps all it is told. -/
structure Recorder where
  calls : List Call := []
  /-- Is the run to be cancelled? -/
  cancelled : Bool := false

namespace Recorder

/-- The statuses that were told, in order. -/
def statuses (r : Recorder) : List Status :=
  r.calls.filterMap fun
    | .status s => some s
    | .result _ => none

/-- The results that were told, in order. -/
def results (r : Recorder) : List Result :=
  r.calls.filterMap fun
    | .status _ => none
    | .result r => some r

/-- The observer that keeps all it is told, fails to take a status where `fails` says so, and cancels the
run at a status where `cancels` says so. -/
def observer (fails : Status → Option Failure) (cancels : Status → Bool) : Observer Recorder where
  status s r := ({ calls := r.calls ++ [.status s], cancelled := r.cancelled || cancels s }, fails s)
  result x r := { r with calls := r.calls ++ [.result x] }
  cancelled r := r.cancelled

end Recorder

end CallCoupling
