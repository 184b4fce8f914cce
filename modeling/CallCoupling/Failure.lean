import CallCoupling.Text.Loose

/-!
# Failures

Every error type of the library names causes.  `Failure` is the common view of them: the cause
that a caller may react to, and the message that a user reads.  A message may hold names from a model,
which need not be text.
-/

set_option autoImplicit false

namespace CallCoupling

/-- The causes that callers tell apart. -/
inductive Cause where
  /-- A node identity is empty. -/
  | malformedIdentity
  /-- No channel of an invocation names a receiver. -/
  | unresolvedReceiver
  /-- A count targets a label outside the label set. -/
  | outOfSetLabel
  /-- The model file is in no known format. -/
  | unsupportedFormat
  /-- The model document has null entries. -/
  | malformedModel
  /-- A selection matches no node. -/
  | noSelection
  /-- The publisher has shut down. -/
  | closed
  /-- The work was cancelled. -/
  | cancelled
  /-- A file is missing. -/
  | notExist
  /-- Any other error with a message. -/
  | other
  /-- The computation met a null entry or left a table, which is a defect of its input. -/
  | fault
deriving DecidableEq, Repr, Inhabited

/-- A cause with the text shown to the user. -/
structure Failure where
  cause : Cause
  message : Loose
deriving DecidableEq, Inhabited

namespace Failure

/-- A failure with no cause that callers react to. -/
def other (message : Loose) : Failure := ⟨.other, message⟩

/-- A defect of the input; it has no text of its own. -/
def fault : Failure := ⟨.fault, "invalid memory reference"⟩

/-- The same failure, its message put behind a heading. -/
def within (heading : Loose) (f : Failure) : Failure :=
  { f with message := heading ++ Loose.ofString ": " ++ f.message }

end Failure

end CallCoupling
