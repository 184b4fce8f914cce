import CallCoupling.Failure
import CallCoupling.Model.Basic
import CallCoupling.Number.Integer

/-!
# Call graphs

Nodes are named by their identity and numbered in the order in which they are first seen.  What is
known of them stands in five tables: from names to ids and back, how a node was seen (`Membership`), how
many call sites target it, and, for a node that has been added as a caller, the set of nodes that it
calls, kept in ascending order.

A graph grows by two steps, `addCaller` and `addCallee`.  Each returns a graph beside its answer, also
when the answer is an error, so that what a failed step leaves behind can be seen.
-/

set_option autoImplicit false

namespace CallCoupling

/-- How far a node is known to belong to the project. -/
inductive Membership where
  /-- Not discovered yet. -/
  | unseen
  /-- Only ever seen as the target of an invocation. -/
  | calleeOnly
  /-- Seen as a caller, part of the project. -/
  | confirmed
deriving DecidableEq, Repr, Inhabited

namespace Membership

/-- The place of a state in the order of promotion. -/
def rank : Membership → Nat
  | .unseen => 0
  | .calleeOnly => 1
  | .confirmed => 2

/-- The name of a state. -/
def name : Membership → String
  | .unseen => "unseen"
  | .calleeOnly => "callee-only"
  | .confirmed => "confirmed"

/-- The state with a given rank. -/
def ofRank? : Nat → Option Membership
  | 0 => some .unseen
  | 1 => some .calleeOnly
  | 2 => some .confirmed
  | _ => none

/-- The name of the state with a given rank. -/
def nameOfRank (n : Nat) : String :=
  match ofRank? n with
  | some m => m.name
  | none => "unknown"

/-- The further of two states: a node is never demoted. -/
def promote (m least : Membership) : Membership := if m.rank < least.rank then least else m

end Membership

/-- A call graph, as tables that are filled side by side. -/
structure Graph where
  /-- The id of each name. -/
  ids : List (Name × Nat) := []
  /-- The name of each id. -/
  names : List Name := []
  /-- The state of each id. -/
  membership : List Membership := []
  /-- The number of call sites that target each id. -/
  multiplicity : List Nat := []
  /-- The ids that each caller calls, ascending; only a caller has an entry. -/
  links : List (Nat × List Nat) := []
deriving DecidableEq, Repr, Inhabited

/-- Why a step of a builder fails. -/
inductive GraphError where
  | emptyCaller
  | emptyCallee
  | unknownCaller (id : Int)
deriving DecidableEq, Repr

namespace GraphError

/-- The error as seen by callers. -/
def failure : GraphError → Failure
  | .emptyCaller => ⟨.malformedIdentity, "malformed identity: empty caller identity"⟩
  | .emptyCallee => ⟨.malformedIdentity, "malformed identity: empty callee identity"⟩
  | .unknownCaller id => .other ("caller " ++ Integer.text id ++ " has not been added")

end GraphError

/-- Insert into an ascending list without repeats. -/
def insertId (x : Nat) : List Nat → List Nat
  | [] => [x]
  | y :: ys => if x < y then x :: y :: ys else if x = y then y :: ys else y :: insertId x ys

/-- The value that a table holds for an id, if the id is in its range. -/
def valueAt? {α : Type} (table : List α) (id : Int) : Option α :=
  if id < 0 then none else table[id.toNat]?

namespace Graph

/-! ## Reading a graph -/

/-- The number of nodes. -/
def size (g : Graph) : Nat := g.names.length

/-- The id of a name. -/
def id? (g : Graph) (name : Name) : Option Nat := g.ids.lookup name

/-- The name of a node, empty for an unknown id. -/
def nameOf (g : Graph) (id : Int) : Name := (valueAt? g.names id).getD []

/-- The state of a node, unseen for an unknown id. -/
def stateOf (g : Graph) (id : Int) : Membership := (valueAt? g.membership id).getD .unseen

/-- Is the node part of the project? -/
def owns (g : Graph) (id : Int) : Bool := g.stateOf id = .confirmed

/-- The number of call sites that target a node. -/
def multiplicityOf (g : Graph) (id : Int) : Nat := (valueAt? g.multiplicity id).getD 0

/-- The ids of the callers, ascending. -/
def callers (g : Graph) : List Nat := g.links.foldr (fun link ids => insertId link.1 ids) []

/-- The ids that a caller calls, ascending; `none` unless it has been added as a caller. -/
def callees? (g : Graph) (id : Int) : Option (List Nat) :=
  if id < 0 then none else g.links.lookup id.toNat

/-- The ids that a node calls, ascending; none for an unknown id. -/
def calleesOf (g : Graph) (id : Int) : List Nat := (g.callees? id).getD []

/-- The number of links. -/
def linkCount (g : Graph) : Nat := (g.links.map fun link => link.2.length).foldr (· + ·) 0

/-! ## Growing a graph -/

/-- The graph with a node of the given name, and its id; a new name takes the next id. -/
def ensure (g : Graph) (name : Name) : Graph × Nat :=
  match g.id? name with
  | some i => (g, i)
  | none =>
    ({ g with
        ids := (name, g.names.length) :: g.ids
        names := g.names ++ [name]
        membership := g.membership ++ [.unseen]
        multiplicity := g.multiplicity ++ [0] },
      g.names.length)

/-- Raise the state of a node. -/
def promote (g : Graph) (i : Nat) (least : Membership) : Graph :=
  { g with membership := g.membership.modify i (·.promote least) }

/-- Give a node an entry in the table of links. -/
def openLinks (g : Graph) (i : Nat) : Graph :=
  match g.links.lookup i with
  | some _ => g
  | none => { g with links := (i, []) :: g.links }

/-- Count one more call site that targets a node. -/
def countCall (g : Graph) (i : Nat) : Graph :=
  { g with multiplicity := g.multiplicity.modify i (· + 1) }

/-- Add a link from a caller. -/
def link (g : Graph) (caller target : Nat) : Graph :=
  { g with
    links := g.links.map fun (c, targets) =>
      if c = caller then (c, insertId target targets) else (c, targets) }

/-- Add a node as a caller, which makes it part of the project. -/
def addCaller (g : Graph) (name : Name) : Graph × Except GraphError Nat :=
  if name.isEmpty then (g, .error .emptyCaller)
  else
    let (g, i) := g.ensure name
    ((g.promote i .confirmed).openLinks i, .ok i)

/-- Add one call site of a caller that has been added before. -/
def addCallee (g : Graph) (caller : Int) (name : Name) : Graph × Except GraphError Nat :=
  if name.isEmpty then (g, .error .emptyCallee)
  else
    match g.callees? caller with
    | none => (g, .error (.unknownCaller caller))
    | some _ =>
      let (g, i) := g.ensure name
      (((g.promote i .calleeOnly).countCall i).link caller.toNat i, .ok i)

end Graph

/-! ## Runs -/

/-- A call on a graph that is being built. -/
inductive GraphStep where
  | caller (name : Name)
  | callee (caller : Int) (name : Name)
deriving DecidableEq, Repr

namespace Graph

/-- The graph after a call, and the answer of the call. -/
def step (g : Graph) : GraphStep → Graph × Except GraphError Nat
  | .caller name => g.addCaller name
  | .callee caller name => g.addCallee caller name

/-- The graph after some calls, and the answer of each. -/
def run (g : Graph) : List GraphStep → Graph × List (Except GraphError Nat)
  | [] => (g, [])
  | s :: steps =>
    let (g, answer) := g.step s
    let (g, answers) := g.run steps
    (g, answer :: answers)

end Graph

end CallCoupling
