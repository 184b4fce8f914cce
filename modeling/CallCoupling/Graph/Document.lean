import CallCoupling.Graph.Basic
import CallCoupling.Json.Value
import CallCoupling.Number.Decimal

/-!
# Graph documents

A document lists the nodes of a graph by id and its links by source and target.  The weight of a link
falls with the number of call sites that target its callee: a callee with `m` call sites has weight
`2 / (m + 1)`.
-/

set_option autoImplicit false

namespace CallCoupling

/-- The weight `2 / denominator` of a link. -/
structure Weight where
  denominator : Int
deriving DecidableEq, Repr, Inhabited

namespace Weight

/-- The weight of a link to a callee with `m` call sites. -/
def ofCalls (m : Int) : Weight := ⟨m + 1⟩

/-- The weight as a binary number: the reciprocal of half the denominator, where the number of call
sites and the half are themselves rounded to the format. -/
def toBinary (w : Weight) : Binary :=
  match Binary.ofInt (w.denominator - 1) with
  | .finite negative mantissa exponent =>
    let (num, den) := Binary.ratio mantissa exponent
    let sum : Int := (if negative then -(num : Int) else (num : Int)) + (den : Int)
    match Binary.ofRatio (sum < 0) sum.natAbs (2 * den) with
    | .finite negative mantissa exponent =>
      let (num, den) := Binary.ratio mantissa exponent
      Binary.ofRatio negative den num
    | .infinite negative => .finite negative 0 Binary.minExponent
    | .nan => .nan
  | b => b

/-- The weight as a JSON number. -/
def toJson (w : Weight) : Json := .number (Layout.data.render w.toBinary)

end Weight

/-- A node in a document. -/
structure NodeRecord where
  id : Nat
  name : Name
  own : Bool
deriving DecidableEq, Repr, Inhabited

/-- A link in a document. -/
structure LinkRecord where
  source : Nat
  target : Nat
  weight : Weight
deriving DecidableEq, Repr, Inhabited

/-- Nodes and links of a graph. -/
structure Document where
  nodes : List NodeRecord
  links : List LinkRecord
deriving DecidableEq, Repr, Inhabited

namespace NodeRecord

/-- The JSON form of a node. -/
def toJson (n : NodeRecord) : Json :=
  .ofFields [("id", .nat n.id), ("name", .loose n.name), ("own", .bool n.own)]

end NodeRecord

namespace LinkRecord

/-- The JSON form of a link. -/
def toJson (l : LinkRecord) : Json :=
  .ofFields [("source", .nat l.source), ("target", .nat l.target), ("str", l.weight.toJson)]

end LinkRecord

namespace Document

/-- The fields of the JSON form of a document. -/
def fields (d : Document) : List (String × Json) :=
  [("nodes", .array (d.nodes.map NodeRecord.toJson)),
    ("links", .array (d.links.map LinkRecord.toJson))]

/-- The JSON form of a document. -/
def toJson (d : Document) : Json := .ofFields d.fields

end Document

namespace Graph

/-- One record per node, by id. -/
def nodeRecords (g : Graph) : List NodeRecord :=
  g.names.zipIdx.map fun (name, i) => { id := i, name, own := g.owns i }

/-- One record per link, by source and then by target. -/
def linkRecords (g : Graph) : List LinkRecord :=
  g.callers.flatMap fun (source : Nat) =>
    (g.calleesOf source).map fun (target : Nat) =>
      { source, target, weight := Weight.ofCalls (g.multiplicityOf target) }

/-- The document of a graph. -/
def document (g : Graph) : Document := { nodes := g.nodeRecords, links := g.linkRecords }

end Graph

end CallCoupling
