import CallCoupling.Graph.Basic
import CallCoupling.Model.Resolution

/-!
# Building a graph from parents and children

`Graph.build` visits every parent and its children in order.  Two identity functions name them, and
either may fail; the first defect met ends the visit.  The class call graph is the case where parents
are methods named by their owner, and children are invocations named by their receiver.
-/

set_option autoImplicit false

namespace CallCoupling

/-- The defect that ends a visit. -/
inductive BuildError (ε : Type) where
  | parentIdentity (e : ε)
  | parent (e : GraphError)
  | childIdentity (parent : Name) (e : ε)
  | child (parent : Name) (e : GraphError)
deriving DecidableEq, Repr

namespace BuildError

/-- The error as seen by callers. -/
def failure {ε : Type} (inner : ε → Failure) : BuildError ε → Failure
  | .parentIdentity e => (inner e).within "parent identity"
  | .parent e => e.failure
  | .childIdentity p e => (inner e).within (Loose.ofString "child identity of " ++ p)
  | .child p e => e.failure.within (Loose.ofString "child of " ++ p)

end BuildError

namespace Graph

/-- Add the children of a caller in order. -/
def addChildren {C ε : Type} (childName : C → Except ε Name) (caller : Nat) (parent : Name) :
    List C → Graph → Except (BuildError ε) Graph
  | [], g => .ok g
  | c :: cs, g =>
    match childName c with
    | .error e => .error (.childIdentity parent e)
    | .ok name =>
      match g.addCallee caller name with
      | (_, .error e) => .error (.child parent e)
      | (g, .ok _) => addChildren childName caller parent cs g

/-- Add parents, each with its children. -/
def addParents {P C ε : Type} (children : P → List C) (parentName : P → Except ε Name)
    (childName : C → Except ε Name) : List P → Graph → Except (BuildError ε) Graph
  | [], g => .ok g
  | p :: ps, g =>
    match parentName p with
    | .error e => .error (.parentIdentity e)
    | .ok name =>
      match g.addCaller name with
      | (_, .error e) => .error (.parent e)
      | (g, .ok caller) =>
        match addChildren childName caller name (children p) g with
        | .error e => .error e
        | .ok g => addParents children parentName childName ps g

/-- The graph of parents and their children. -/
def build {P C ε : Type} (parents : List P) (children : P → List C)
    (parentName : P → Except ε Name) (childName : C → Except ε Name) :
    Except (BuildError ε) Graph :=
  addParents children parentName childName parents {}

end Graph

/-! ## The class call graph -/

/-- Why a method or an invocation has no identity. -/
inductive SiteError where
  /-- There is no method. -/
  | nullMethod
  /-- The receiver is unresolved. -/
  | receiver (e : ResolveError)
deriving DecidableEq, Repr

namespace SiteError

/-- The error as seen by callers. -/
def failure : SiteError → Failure
  | .nullMethod => .fault
  | .receiver e => e.failure

end SiteError

/-- Why there is no class call graph. -/
abbrev ClassGraphError := BuildError SiteError

namespace ClassGraphError

/-- The error as seen by callers. -/
def failure (e : ClassGraphError) : Failure :=
  (BuildError.failure SiteError.failure e).within "building class call graph"

end ClassGraphError

namespace Graph

/-- The owner of a method. -/
def ownerName : Option Method → Except SiteError Name
  | some m => .ok m.owner
  | none => .error .nullMethod

/-- The receiver of an invocation. -/
def receiverName (chain : Chain) (i : Option Invocation) : Except SiteError Name :=
  (chain.resolve i).mapError .receiver

/-- The graph whose nodes are types and whose links are calls of their methods. -/
def ofMethods (methods : List (Option Method)) (chain : Chain) : Except ClassGraphError Graph :=
  build methods (fun m => (m.map Method.invocations).getD []) ownerName (receiverName chain)

end Graph

end CallCoupling
