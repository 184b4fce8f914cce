import CallCoupling.Coupling.Table
import CallCoupling.Report.Grid
import CallCoupling.Report.Output

/-!
# The coupling report

A report is a Markdown document: the coupling table, the strongest couplings, and the directed counts
behind them.  It is printed chunk by chunk, each handed to the output in one write.  An output that fails
keeps the chunks before the failure, and the rest of the report is not written.  A table or a matrix that lacks
a cell ends the printing where the cell is read.
-/

set_option autoImplicit false

namespace CallCoupling

/-- The first `top` couplings, or all of them if `top` is not positive. -/
def strongest (top : Int) (pairs : List Pair) : List Pair :=
  if top > 0 then pairs.take top.toNat else pairs

/-- What goes into a report. -/
structure Report where
  project : Name := []
  /-- The name of the file with the call graph, empty if there is none. -/
  graphFile : String := ""
  matrix : Option Matrix := none
  table : Option Table := none
  /-- The number of strongest couplings listed; all of them if it is not positive. -/
  top : Int := 0

/-- Why there is no whole report. -/
inductive ReportError where
  | noTable
  /-- A table or a matrix lacks a cell. -/
  | missingCell
  /-- A table has more rows than labels. -/
  | unlabelledRow
  | writeFailed
deriving DecidableEq, Repr

namespace ReportError

/-- The error as seen by callers. -/
def failure : ReportError → Failure
  | .noTable => .other "report has no coupling table"
  | .missingCell | .unlabelledRow => .fault
  | .writeFailed => .other "write failed"

end ReportError

namespace Report

/-- One line of the list of couplings. -/
def pairLine (place : Nat) (p : Pair) : Loose :=
  let strength := Integer.text p.strength ++ "\n"
  if p.a = p.b then Loose.join [toString place ++ ". `", p.a, "` (self) ", strength]
  else Loose.join [toString place ++ ". `", p.a, "` / `", p.b, "` ", strength]

/-- The counts of a matrix, row by row, each in a cell that has to be there. -/
def directedRows? (m : Matrix) : Option (List (List Int)) :=
  m.labels.mapM fun row => m.labels.mapM fun col => (m.count? row col).map Int.ofNat

/-- A computation that prints. -/
abbrev Printer := ExceptT ReportError (StateM Writer)

/-- Print one chunk. -/
def put (chunk : Loose) : Printer Unit := modify (·.put chunk)

/-- Print one chunk if a condition holds. -/
def putIf (condition : Bool) (chunk : Loose) : Printer Unit := if condition then put chunk else pure ()

/-- Go on with a value that has to be there. -/
def need {α : Type} (missing : ReportError) : Option α → Printer α
  | none => throw missing
  | some a => pure a

/-- The text of rows that have to be whole, with a label for each. -/
def grid (labels : List Name) (rows? : Option (List (List Int))) : Printer Loose := do
  let rows ← need .missingCell rows?
  need .unlabelledRow (Grid.render labels rows)

/-- Print the heading. -/
def putHead (r : Report) : Printer Unit := do
  let subject : Loose := if r.project.isEmpty then [] else Loose.ofString " of " ++ r.project
  put (Loose.join ["# Class coupling analysis", subject, "\n\n"])
  if r.graphFile ≠ "" then
    put "## ClassCall Json graph\n\n"
    put ("> written in `" ++ r.graphFile ++ "`\n\n")

/-- Print the coupling table. -/
def putTable (t : Table) : Printer Unit := do
  put "## Class coupling matrix\n\n"
  if t.labels.isEmpty then put "_No types._\n\n"
  else
    let text ← grid t.labels (t.rows?.map (·.map (·.map Int.ofNat)))
    put (text ++ Loose.ofString "\n\n")

/-- Print lines of the list of couplings, numbered from `place` on. -/
def putLines (place : Nat) : List Pair → Printer Unit
  | [] => pure ()
  | p :: rest => do
    put (pairLine place p)
    putLines (place + 1) rest

/-- Print the list of couplings. -/
def putPairs (top : Int) (t : Table) : Printer Unit := do
  put "## Strongest couplings\n\n"
  let pairs ← need .missingCell t.pairs?
  let listed := strongest top pairs
  putIf listed.isEmpty "_No coupling between types._\n\n"
  putLines 1 listed
  putIf (!listed.isEmpty) "\n"

/-- Print the directed counts, if there are any. -/
def putMatrix : Option Matrix → Printer Unit
  | none => pure ()
  | some m => do
    if m.size ≠ 0 then
      put "## Directed call counts\n\n"
      put "> rows call columns\n\n"
      let text ← grid m.labels (directedRows? m)
      put (text ++ Loose.ofString "\n\n")
      putIf (m.dropped > 0) ("> " ++ toString m.dropped ++
        " call(s) to types outside the analyzed set were not counted\n\n")

/-- Print all sections of a report with a table. -/
def putSections (r : Report) (t : Table) : Printer Unit := do
  r.putHead
  putTable t
  putPairs r.top t
  putMatrix r.matrix

/-- Print a report; it fails if a write has failed on the way. -/
def print (r : Report) : Printer Unit :=
  match r.table with
  | none => throw .noTable
  | some t => do
    r.putSections t
    if (← get).failed then throw .writeFailed

/-- Print a report to an output that accepts `room` writes, or any number if there is no limit. -/
def printTo (r : Report) (room : Option Nat) : Except ReportError Unit × Writer :=
  r.print.run.run { output := { room } }

/-- The text written to an output, and the error if there is one. -/
def render (r : Report) (room : Option Nat) : Loose × Option ReportError :=
  match r.printTo room with
  | (.ok _, w) => (w.output.text, none)
  | (.error e, w) => (w.output.text, some e)

/-- The whole text of a report. -/
def text (r : Report) : Except ReportError Loose :=
  match r.printTo none with
  | (.ok _, w) => .ok w.output.text
  | (.error e, _) => .error e

end Report

end CallCoupling
