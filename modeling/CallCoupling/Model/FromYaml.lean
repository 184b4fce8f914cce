import CallCoupling.Model.Basic
import CallCoupling.Yaml.Meaning

/-!
# Models from YAML

Keys are compared exactly, unknown ones are skipped, and a key that is repeated is an error.  A scalar in
a text field gives its text as written, and null leaves a field empty.  The merge key `<<` brings in the
fields of other mappings that are not there yet, the first of them winning.

Values are read in the order of the document.  A value of the wrong kind spoils the model, but reading
goes on behind it (`Decode.flaw`), for a later value may stop it for another reason (`Stop`).  Nodes are
counted as they are read, and a document is refused when nearly all of them come through aliases.
-/

set_option autoImplicit false

namespace CallCoupling.Yaml

/-- Why reading stops. -/
inductive Stop where
  | error (e : Error)
  /-- Keys beside a merge key are looked up by their value, which a list or a mapping does not allow. -/
  | collectionKey
deriving DecidableEq, Repr

/-- What is known about the nodes read so far. -/
structure Tally where
  /-- Their number. -/
  nodes : Nat := 0
  /-- The number of those inside an alias. -/
  aliased : Nat := 0
  /-- Was one of the wrong kind? -/
  flawed : Bool := false

/-- Reading with a tally. -/
abbrev Decode (α : Type) : Type := StateT Tally (Except Stop) α

/-- Where reading is. -/
structure Place where
  document : Document
  /-- The aliases that are being followed. -/
  active : List Nat := []
  /-- How deep values may nest, those behind aliases included. -/
  fuel : Nat

namespace Decode

/-- Stop with an error. -/
def fail {α : Type} (detail : String) : Decode α := throw (.error ⟨detail⟩)

/-- Note a value of the wrong kind. -/
def flaw : Decode Unit := modify fun t => { t with flawed := true }

/-- A result that may be an error. -/
def lift {α : Type} : Except Error α → Decode α
  | .ok a => pure a
  | .error e => throw (.error e)

/-- Are too many of the nodes inside aliases?  Of up to 400,000 nodes 99 in 100 may be, of 4,000,000 and more
one in ten, and between them the share falls evenly. -/
def excessive (nodes aliased : Nat) : Bool :=
  100 < aliased && 1000 < nodes &&
    if nodes ≤ 400000 then 99 * nodes < 100 * aliased
    else if 4000000 ≤ nodes then nodes < 10 * aliased
    else nodes * (392000000 - 89 * nodes) < 360000000 * aliased

/-- Count a node. -/
def count (p : Place) : Decode Unit := do
  let t ← get
  let t :=
    { t with nodes := t.nodes + 1, aliased := if p.active.isEmpty then t.aliased else t.aliased + 1 }
  set t
  if excessive t.nodes t.aliased then fail "document contains excessive aliasing"

/-- Read a node; an alias is followed, but not from inside itself. -/
def visit {α : Type} (p : Place) (n : Node) (read : Place → Node → Decode α) : Decode α := do
  count p
  match n with
  | .alias _ place _ =>
    if p.active.contains place then fail "anchor value contains itself"
    else
      let p := { p with active := place :: p.active }
      count p
      read p (p.document.follow n)
  | n => read p n

/-! ## Keys of a mapping -/

/-- What makes two keys the same: their kind and their text. -/
def keyMark : Node → Nat × String
  | .scalar _ text _ => (0, text)
  | .sequence .. => (1, "")
  | .mapping .. => (2, "")
  | .alias name _ _ => (3, name)

/-- Is there a key that is written twice? -/
def hasRepeat : List (Nat × String) → Bool
  | [] => false
  | k :: ks => ks.contains k || hasRepeat ks

/-- Are the keys of a mapping different?  If not, that is noted. -/
def distinct (entries : List (Node × Node)) : Decode Bool := do
  if hasRepeat (entries.map fun (k, _) => keyMark k) then
    flaw
    pure false
  else pure true

/-- Is a key the merge key? -/
def isMergeKey : Node → Bool
  | .scalar tag text plain => text = "<<" && ((tag = none && plain) || tag = some "!!merge")
  | _ => false

/-- The value of the merge key. -/
def merged? (entries : List (Node × Node)) : Option Node :=
  (entries.find? fun (k, _) => isMergeKey k).map (·.2)

/-- The nodes that a merge value brings in. -/
def mergeSources : Node → List Node
  | .sequence _ items => items
  | v => [v]

/-- Only a mapping may be merged. -/
def mergeable (d : Document) (n : Node) : Decode Unit :=
  match d.follow n with
  | .mapping .. => pure ()
  | _ => fail "map merge requires map or sequence of maps as the value"

/-! ## Values of any kind -/

/-- What a value of any kind turns out to be. -/
inductive Shape where
  | text (t : Loose)
  /-- A scalar that is no text. -/
  | atom
  /-- A list or a mapping. -/
  | collection
  /-- A mapping that could not be read. -/
  | broken

/-- The shape of a scalar. -/
def scalarShape (tag : Option String) (text : String) (plain : Bool) : Except Error Shape := do
  match ← meaning tag text plain with
  | .text => .text <$> scalarText tag text
  | _ => pure .atom

/-- Read a value of any kind.  `beside` tells whether a merge key stands beside it, so that keys inside it
are looked up by their values. -/
def any : Nat → Place → Bool → Node → Decode Shape
  | 0, _, _, _ => fail "anchor value contains itself"
  | fuel + 1, p, beside, n =>
    visit p n fun p n => do
      match n with
      | .scalar tag text plain => lift (scalarShape tag text plain)
      | .sequence _ items =>
        items.forM fun i => discard (any fuel p beside i)
        pure .collection
      | .mapping _ entries =>
        if !(← distinct entries) then pure .broken
        else
          entries.forM fun (k, v) => do
            if !isMergeKey k then
              match ← any fuel p false k with
              | .broken => pure ()
              | .collection => if beside then throw .collectionKey else fail "invalid map key"
              | _ => discard (any fuel p false v)
          match merged? entries with
          | none => pure ()
          | some v =>
            if !beside then entries.forM fun (k, _) => discard (any fuel p true k)
            (mergeSources v).forM fun source => do
              mergeable p.document source
              discard (any fuel p true source)
          pure .collection
      | .alias .. => fail "anchor value contains itself"

/-- The names that a mapping gives itself, which no merge changes. -/
def ownNames (p : Place) : List (Node × Node) → Decode (List Loose)
  | [] => pure []
  | (k, _) :: rest => do
    match ← any p.fuel p true k with
    | .text t => (t :: ·) <$> ownNames p rest
    | .collection => throw .collectionKey
    | _ => ownNames p rest

/-! ## Values of a field -/

/-- Read a scalar; null and values of another kind give none. -/
def scalar {α : Type} (p : Place) (n : Node)
    (read : Option String → String → Meaning → Except Error (Option α)) : Decode (Option α) :=
  visit p n fun _ n => do
    match n with
    | .scalar tag text plain =>
      match ← lift (meaning tag text plain) with
      | .null => pure none
      | m =>
        match ← lift (read tag text m) with
        | some a => pure (some a)
        | none =>
          flaw
          pure none
    | _ =>
      flaw
      pure none

/-- Read a text. -/
def text (p : Place) (n : Node) : Decode (Option Loose) :=
  scalar p n fun tag text _ => some <$> scalarText tag text

/-- The words for truth values beside those of the core schema. -/
def wordTruth? (w : String) : Option Bool :=
  if ["y", "Y", "yes", "Yes", "YES", "on", "On", "ON"].contains w then some true
  else if ["n", "N", "no", "No", "NO", "off", "Off", "OFF"].contains w then some false
  else none

/-- Read a truth value. -/
def truth (p : Place) (n : Node) : Decode (Option Bool) :=
  scalar p n fun tag text m =>
    match m with
    | .bool b => .ok (some b)
    | .text => (scalarText tag text).map fun t => t.text?.bind wordTruth?
    | _ => .ok none

/-- A number with a fraction as a whole number: it is cut toward zero, and one below the range wraps to
the least number. -/
def cutFloat : Binary → Option Int
  | .nan => none
  | .infinite negative => if negative then some Integer.least else none
  | .finite negative mantissa exponent =>
    let n := Binary.truncate negative mantissa exponent
    if n > Integer.greatest + 1 then none
    else if Integer.fits n then some n
    else some Integer.least

/-- Read a whole number. -/
def whole (p : Place) (n : Node) : Decode (Option Int) :=
  scalar p n fun _ _ m =>
    match m with
    | .int n => .ok (if Integer.fits n then some n else none)
    | .float x => .ok (cutFloat x)
    | _ => .ok none

/-- Read the items of a list; null is no list, and a value of another kind leaves it out. -/
def list {α : Type} (p : Place) (n : Node) (item : Place → Node → Decode α) :
    Decode (Option (List α)) :=
  visit p n fun p n => do
    match n with
    | .sequence _ items => some <$> items.mapM (item p)
    | .scalar tag text plain =>
      match ← lift (meaning tag text plain) with
      | .null => pure none
      | _ =>
        flaw
        pure none
    | .mapping .. | .alias .. =>
      flaw
      pure none

/-! ## Records -/

/-- How a record is read: its fields, and what the value of each does to it. -/
structure Form (ρ : Type) where
  fields : List String
  set : Place → String → Node → ρ → Decode ρ

/-- Read the fields that a mapping gives itself.  `taken` are the names that count no more while merging,
and `done` are the fields that are set. -/
def ownFields {ρ : Type} (form : Form ρ) (p : Place) :
    List (Node × Node) → Option (List Loose) → List String → ρ → Decode (ρ × Option (List Loose))
  | [], taken, _, r => pure (r, taken)
  | (k, v) :: rest, taken, done, r => do
    if isMergeKey k then ownFields form p rest taken done r
    else
      match ← text p k with
      | none => ownFields form p rest taken done r
      | some name =>
        if (taken.getD []).contains name then ownFields form p rest taken done r
        else
          let taken := taken.map (name :: ·)
          match form.fields.find? (Loose.ofString · = name) with
          | none => ownFields form p rest taken done r
          | some field =>
            if done.contains field then
              flaw
              ownFields form p rest taken done r
            else
              let r ← form.set p field v r
              ownFields form p rest taken (field :: done) r

/-- Read a mapping into a record, first its own fields and then the merged ones. -/
def fields {ρ : Type} (form : Form ρ) :
    Nat → Place → Option (List Loose) → List (Node × Node) → ρ → Decode (ρ × Option (List Loose))
  | 0, _, _, _, _ => fail "anchor value contains itself"
  | fuel + 1, p, taken, entries, r => do
    if !(← distinct entries) then pure (r, taken)
    else
      let (r, taken) ← ownFields form p entries taken [] r
      match merged? entries with
      | none => pure (r, taken)
      | some v =>
        let names ← match taken with
          | some names => pure names
          | none => ownNames p entries
        let (r, names) ← (mergeSources v).foldlM (fun (r, names) source => do
          mergeable p.document source
          visit p source fun p n => do
            match n with
            | .mapping _ entries =>
              let (r, taken) ← fields form fuel p (some names) entries r
              pure (r, taken.getD [])
            | _ => pure (r, names)) (r, names)
        pure (r, taken.map fun _ => names)

/-- Read a record in place; null leaves it as it is. -/
def record {ρ : Type} (form : Form ρ) (p : Place) (n : Node) (r : ρ) : Decode ρ :=
  visit p n fun p n => do
    match n with
    | .mapping _ entries => (·.1) <$> fields form p.fuel p none entries r
    | .scalar tag text plain =>
      if (← lift (meaning tag text plain)) ≠ .null then flaw
      pure r
    | .sequence .. | .alias .. =>
      flaw
      pure r

/-- Read a record that may be missing: null is none, and nothing else may be tagged as null. -/
def optional {ρ : Type} (form : Form ρ) (empty : ρ) (p : Place) (n : Node) : Decode (Option ρ) :=
  visit p n fun p n => do
    match n with
    | .mapping tag entries =>
      if tag = some "!!null" then
        flaw
        pure none
      else
        let (r, _) ← fields form p.fuel p none entries empty
        pure (some r)
    | .scalar tag text plain =>
      if (← lift (meaning tag text plain)) ≠ .null then flaw
      pure none
    | .sequence .. | .alias .. =>
      flaw
      pure none

end Decode

end CallCoupling.Yaml

namespace CallCoupling

open Yaml

/-- The form of a type reference. -/
def TypeRef.form : Decode.Form TypeRef where
  fields := ["name", "synthetic"]
  set p field v r := do
    match field with
    | "name" => pure { r with name := (← Decode.text p v).getD r.name }
    | _ => pure { r with synthetic := (← Decode.truth p v).getD r.synthetic }

/-- The form of a receiver. -/
def Receiver.form : Decode.Form Receiver where
  fields := ["type", "accessedType"]
  set p field v r := do
    match field with
    | "type" => pure { r with declared := ← Decode.optional TypeRef.form {} p v }
    | _ => pure { r with accessed := ← Decode.optional TypeRef.form {} p v }

/-- The form of an invocation. -/
def Invocation.form : Decode.Form Invocation where
  fields := ["method", "receiver", "line"]
  set p field v r := do
    match field with
    | "method" => pure { r with method := (← Decode.text p v).getD r.method }
    | "receiver" => pure { r with receiver := ← Decode.record Receiver.form p v r.receiver }
    | _ => pure { r with line := (← Decode.whole p v).getD r.line }

/-- The form of a method. -/
def Method.form : Decode.Form Method where
  fields := ["name", "signature", "declaringType", "invocations"]
  set p field v r := do
    match field with
    | "name" => pure { r with name := (← Decode.text p v).getD r.name }
    | "signature" => pure { r with signature := (← Decode.text p v).getD r.signature }
    | "declaringType" => pure { r with owner := (← Decode.text p v).getD r.owner }
    | _ =>
      let invocations ← Decode.list p v (Decode.optional Invocation.form {})
      pure { r with invocations := invocations.getD [] }

/-- The form of a type. -/
def TypeDecl.form : Decode.Form TypeDecl where
  fields := ["name", "methods"]
  set p field v r := do
    match field with
    | "name" => pure { r with name := (← Decode.text p v).getD r.name }
    | _ =>
      let methods ← Decode.list p v (Decode.optional Method.form {})
      pure { r with methods := methods.getD [] }

/-- The form of a project. -/
def Project.form : Decode.Form Project where
  fields := ["name", "types"]
  set p field v r := do
    match field with
    | "name" => pure { r with name := (← Decode.text p v).getD r.name }
    | _ => pure { r with types := ← Decode.list p v (Decode.optional TypeDecl.form {}) }

/-- The model in a document, which counts as a node beside its root. -/
def Project.ofDocument (document : Yaml.Document) (fuel : Nat) : Except Yaml.Stop Project := do
  let p : Yaml.Place := { document, fuel }
  let (project, tally) ← (do Decode.count p; Decode.record Project.form p document.root {}).run {}
  if tally.flawed then throw (.error ⟨"a value is of the wrong kind"⟩)
  pure project

/-- The model in the bytes of a YAML text; a text without a document is an empty model.  A value nests no
deeper than the text is long for every alias that is being followed. -/
def Project.ofYaml (bytes : List UInt8) : Except Yaml.Stop Project :=
  let source := Yaml.Source.ofBytes bytes
  let size := source.chars.length
  match Yaml.Document.parse source with
  | .error e => .error (.error e)
  | .ok none => .ok {}
  | .ok (some document) => ofDocument document ((size + 2) * (size + 2))

end CallCoupling
