import CallCoupling.Failure
import CallCoupling.Model.Basic
import CallCoupling.Text.Quoted

/-!
# Coupling matrices

A matrix counts invocations from one type into another, over an ordered set of labels: the row is the
invoking type, the column the invoked type.  An index finds the place of a label, and counts are kept as
one list per row.  A label that is added later gets a new row and a new column of zeros at the end.
-/

set_option autoImplicit false

namespace CallCoupling

/-- Directed invocation counts over a set of labels. -/
structure Matrix where
  labels : List Name := []
  /-- The place of each label. -/
  index : List (Name × Nat) := []
  /-- One row per label, with one count per label. -/
  counts : List (List Nat) := []
  /-- The number of counts skipped because a label was out of set. -/
  dropped : Nat := 0
deriving DecidableEq, Repr, Inhabited

/-- Why a count cannot be made. -/
inductive MatrixError where
  | unknownRow (label : Name)
  | unknownColumn (label : Name)
  /-- The label set is closed and lacks the label. -/
  | outOfSet (label : Name)
deriving DecidableEq, Repr

namespace MatrixError

/-- The error as seen by callers. -/
def failure : MatrixError → Failure
  | .unknownRow label => ⟨.outOfSetLabel, "label not in matrix: row " ++ Text.quotedLoose label⟩
  | .unknownColumn label => ⟨.outOfSetLabel, "label not in matrix: column " ++ Text.quotedLoose label⟩
  | .outOfSet label => ⟨.outOfSetLabel, "label not in matrix: " ++ Text.quotedLoose label⟩

end MatrixError

namespace Matrix

/-- The number of labels. -/
def size (m : Matrix) : Nat := m.labels.length

/-- The place of a label. -/
def index? (m : Matrix) (label : Name) : Option Nat := m.index.lookup label

/-- Is the label in the set? -/
def has (m : Matrix) (label : Name) : Bool := (m.index? label).isSome

/-- Give a label the next place; a known label keeps its own. -/
def enlist (m : Matrix) (label : Name) : Matrix :=
  if m.has label then m
  else { m with labels := m.labels ++ [label], index := (label, m.labels.length) :: m.index }

/-- The square of zeros with `n` rows. -/
def zeros (n : Nat) : List (List Nat) := List.replicate n (List.replicate n 0)

/-- The matrix of zeros over the labels; a repeated label keeps its first place. -/
def ofLabels (labels : List Name) : Matrix :=
  let m := labels.foldl enlist {}
  { m with counts := zeros m.size }

/-- The count in a cell, zero outside the matrix. -/
def cell (m : Matrix) (i j : Nat) : Nat := ((m.counts[i]?).getD [])[j]?.getD 0

/-- The count in a cell that has to be there. -/
def cell? (m : Matrix) (i j : Nat) : Option Nat := (m.counts[i]?).bind (·[j]?)

/-- The count for two labels, zero for unknown ones. -/
def count (m : Matrix) (row col : Name) : Nat :=
  match m.index? row, m.index? col with
  | some i, some j => m.cell i j
  | _, _ => 0

/-- The count for two labels, in a cell that has to be there. -/
def count? (m : Matrix) (row col : Name) : Option Nat :=
  match m.index? row, m.index? col with
  | some i, some j => m.cell? i j
  | _, _ => some 0

/-- The sum of all counts. -/
def total (m : Matrix) : Nat := m.counts.flatten.foldr (· + ·) 0

/-- Add one to a cell. -/
def bump (m : Matrix) (i j : Nat) : Matrix :=
  { m with counts := m.counts.modify i (·.modify j (· + 1)) }

/-- Count one invocation between two labels of the set. -/
def increment (m : Matrix) (row col : Name) : Matrix × Except MatrixError Unit :=
  match m.index? row, m.index? col with
  | none, _ => (m, .error (.unknownRow row))
  | some _, none => (m, .error (.unknownColumn col))
  | some i, some j => (m.bump i j, .ok ())

/-- Add a label at the end, with a row and a column of zeros; a known one changes nothing. -/
def addLabel (m : Matrix) (label : Name) : Matrix :=
  if m.has label then m
  else
    { m.enlist label with
      counts := m.counts.map (· ++ [0]) ++ [List.replicate (m.size + 1) 0] }

/-- Record a skipped count. -/
def drop (m : Matrix) : Matrix := { m with dropped := m.dropped + 1 }

end Matrix

end CallCoupling
