import CallCoupling.Graph.Document
import CallCoupling.Graph.Search

/-!
# Neighbourhoods of a selection

A selector names a node, or else a package: all nodes whose name continues it after a dot.  Distances
count links in either direction from the nearest selected node.  A view keeps the nodes within a depth and
the links between them.
-/

set_option autoImplicit false

namespace CallCoupling

/-- Why there is no view. -/
inductive FocusError where
  | noSelection
deriving DecidableEq, Repr

namespace FocusError

/-- The error as seen by callers. -/
def failure : FocusError → Failure
  | .noSelection => ⟨.noSelection, "selection matches no node"⟩

end FocusError

/-- A graph restricted to the neighbourhood of a selection; ids are those of the whole graph. -/
structure View where
  document : Document
  selected : List Nat
  /-- Each node of the document with its distance from the selection. -/
  distances : List (Nat × Nat)
deriving DecidableEq, Repr, Inhabited

namespace Graph

/-! ## Selection -/

/-- What the names of the members of a package start with. -/
def packageStart (selector : Name) : Name :=
  if selector.getLast? = some (.char '.') then selector else selector ++ [.char '.']

/-- Does a selector select a node with this name? -/
def selects (g : Graph) (selector name : Name) : Bool :=
  if (g.id? selector).isSome then name = selector
  else (packageStart selector).isPrefixOf name

/-- The ids that some selector selects, ascending. -/
def select (g : Graph) (selectors : List Name) : List Nat :=
  g.names.zipIdx.filterMap fun (name, i) =>
    if selectors.any (g.selects · name) then some i else none

/-! ## Distances -/

/-- Pairs of different nodes with a link between them, each in both orders. -/
def adjacent (g : Graph) : List (Nat × Nat) :=
  g.linkRecords.flatMap fun l =>
    if l.source = l.target then [] else [(l.source, l.target), (l.target, l.source)]

/-- The neighbours of a node, as pairs list them; two nodes that call each other stand there twice. -/
def neighboursIn (pairs : List (Nat × Nat)) (u : Nat) : List Nat :=
  pairs.filterMap fun (a, b) => if a = u then some b else none

/-- The distance of every node from the nearest selected one; `none` if there is no path. -/
def distances (g : Graph) (selected : List Nat) : List (Option Nat) :=
  (Search.start g.size selected).run (neighboursIn g.adjacent)

/-- Distances from ids given from outside; `none` if one of them is no node. -/
def distancesFrom? (g : Graph) (ids : List Int) : Option (List (Option Nat)) :=
  if ids.all fun i => 0 ≤ i && i < (g.size : Int) then some (g.distances (ids.map Int.toNat)) else none

/-! ## Views -/

/-- Is a distance within a depth?  A negative depth admits every node that can be reached. -/
def within (depth : Int) : Option Nat → Bool
  | none => false
  | some d => depth < 0 || (d : Int) ≤ depth

/-- The nodes within a depth of some selected ones, and the links between them. -/
def around (g : Graph) (selected : List Nat) (depth : Int) : View :=
  let dist := g.distances selected
  let visible (i : Nat) : Bool := within depth ((dist[i]?).getD none)
  let nodes := g.nodeRecords.filter fun n => visible n.id
  { document := { nodes, links := g.linkRecords.filter fun l => visible l.source && visible l.target }
    selected
    distances := nodes.map fun n => (n.id, ((dist[n.id]?).getD none).getD 0) }

/-- The neighbourhood of what the selectors select. -/
def focus (g : Graph) (selectors : List Name) (depth : Int) : Except FocusError View :=
  let selected := g.select selectors
  if selected.isEmpty then .error .noSelection else .ok (g.around selected depth)

end Graph

end CallCoupling
