import CallCoupling.Coupling.Build
import CallCoupling.Coupling.Table
import CallCoupling.Graph.Build
import CallCoupling.Graph.Document
import CallCoupling.Report.Summary
import CallCoupling.Time.Duration

/-!
# Results

A result holds what a finished run computed from a model: its call graph and its coupling matrix.  All
that is shown of a result is derived from these two.
-/

set_option autoImplicit false

namespace CallCoupling

/-- What a finished run computed. -/
structure Result where
  runId : String := ""
  reason : String := ""
  project : Project
  graph : Graph
  matrix : Matrix
  /-- The files that were written, in order. -/
  written : List String := []
  elapsed : Duration := ⟨0⟩

namespace Result

/-- The document of the call graph. -/
def document (r : Result) : Document := r.graph.document

/-- The coupling table. -/
def table (r : Result) : Table := r.matrix.table

/-- The counts and the couplings of a result. -/
def summary (r : Result) : Summary :=
  { project := r.project.name
    types := r.project.typeList.length
    methods := r.project.methods.length
    invocations := r.project.invocationCount
    nodes := r.document.nodes.length
    ownNodes := (r.document.nodes.filter NodeRecord.own).length
    links := r.document.links.length
    pairs := r.table.pairs
    dropped := r.matrix.dropped
    written := r.written }

end Result

end CallCoupling
