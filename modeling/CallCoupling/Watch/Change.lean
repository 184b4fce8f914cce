/-!
# Changes of the model file

A change says that the model file was written or removed, with the paths it concerns.  Only a written
model asks for a new run: after a removal the last results are kept until the file comes back.
-/

set_option autoImplicit false

namespace CallCoupling

/-- What happened to a file. -/
inductive ChangeKind where
  /-- Created, written, or renamed into place. -/
  | written
  | removed
  /-- Not known; it is shown as written and asks for nothing. -/
  | unknown
deriving DecidableEq, Repr, Inhabited

namespace ChangeKind

/-- The kind with a number. -/
def ofNumber : Int → ChangeKind
  | 0 => .written
  | 1 => .removed
  | _ => .unknown

/-- The name of a kind. -/
def name : ChangeKind → String
  | .removed => "removed"
  | _ => "written"

/-- The kind of a raw file event, read off its operation bits: create, write, remove, rename and change
of attributes, from the lowest on.  A removal wins; a change of attributes alone is no change. -/
def ofBits? (bits : Nat) : Option ChangeKind :=
  if bits.testBit 2 then some .removed
  else if bits.testBit 0 || bits.testBit 1 || bits.testBit 3 then some .written
  else none

end ChangeKind

/-- A change with the paths it concerns. -/
structure Change where
  kind : ChangeKind
  paths : List String := []
deriving DecidableEq, Repr, Inhabited

namespace Change

/-- Does the change ask for a new run? -/
def needsRun (c : Change) : Bool := c.kind = .written

/-- Why a run is made, or why none is. -/
def reason (c : Change) : String :=
  match c.kind with
  | .written => "model changed"
  | .removed => "model removed"
  | .unknown => ""

end Change

end CallCoupling
