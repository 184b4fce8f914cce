import CallCoupling.Coupling.Matrix

/-!
# Coupling tables

A table is the undirected presentation of a matrix.  The value for two different types is the number
of invocations between them in both directions; the diagonal holds the number of invocations of a
type into itself.  `Table.pairs` ranks the couplings, strongest first.

A table may be made by hand with rows that are too short.  `Table.rows?` and `Table.pairs?` are the readings of
one who does not look at that: they have no answer if a cell is missing.
-/

set_option autoImplicit false

namespace CallCoupling

/-- Undirected coupling strengths over ordered labels. -/
structure Table where
  labels : List Name := []
  values : List (List Nat) := []
deriving DecidableEq, Repr, Inhabited

/-- An unordered pair of types with its coupling strength. -/
structure Pair where
  a : Name
  b : Name
  strength : Int
deriving DecidableEq, Repr, Inhabited

namespace Matrix

/-- The undirected strength between two places. -/
def strength (m : Matrix) (i j : Nat) : Nat :=
  if i = j then m.cell i i else m.cell i j + m.cell j i

/-- The undirected table of a matrix. -/
def table (m : Matrix) : Table :=
  { labels := m.labels
    values := (List.range m.size).map fun i => (List.range m.size).map fun j => m.strength i j }

end Matrix

namespace Table

/-- The value in a cell, if it is one. -/
def at? (t : Table) (i j : Int) : Option Nat :=
  if i < 0 || j < 0 then none else (t.values[i.toNat]?).bind (·[j.toNat]?)

/-- The strength between two labels, zero for unknown ones. -/
def coupling (t : Table) (a b : Name) : Nat :=
  match t.labels.findIdx? (· = a), t.labels.findIdx? (· = b) with
  | some i, some j => (t.at? i j).getD 0
  | _, _ => 0

/-- The non-zero cells of a row from its diagonal on, as pairs. -/
def rowPairs (labels : List Name) (i : Nat) (a : Name) (row : List Nat) : List Pair :=
  ((labels.zip row).drop i).filterMap fun (b, v) =>
    if v = 0 then none else some { a, b, strength := v }

/-- The non-zero cells on and above the diagonal, row by row. -/
def cells (t : Table) : List Pair :=
  ((t.labels.zip t.values).zipIdx).flatMap fun ((a, row), i) => rowPairs t.labels i a row

/-- All couplings, strongest first; equal ones keep the order of the labels. -/
def pairs (t : Table) : List Pair := t.cells.mergeSort fun p q => p.strength ≥ q.strength

/-! ## Readings that have to find every cell -/

/-- The rows, read cell by cell. -/
def rows? (t : Table) : Option (List (List Nat)) :=
  (List.range t.labels.length).mapM fun (i : Nat) =>
    (List.range t.labels.length).mapM fun (j : Nat) => t.at? i j

/-- What a cell adds to the pairs. Its labels are read only if it is not zero. -/
def pair? (t : Table) (i j : Nat) : Option (Option Pair) := do
  let v ← t.at? i j
  if v = 0 then some none
  else do
    let a ← t.labels[i]?
    let b ← t.labels[j]?
    some (some { a, b, strength := v })

/-- The pairs, read cell by cell on and above the diagonal. -/
def pairs? (t : Table) : Option (List Pair) :=
  let n := t.labels.length
  ((List.range n).mapM fun i => ((List.range n).drop i).mapM (t.pair? i)).map fun cells =>
    (cells.flatten.filterMap id).mergeSort fun p q => p.strength ≥ q.strength

end Table

end CallCoupling
