import CallCoupling.Failure
import CallCoupling.Model.Basic

/-!
# Checked and normalised models

A document with a null type, method or invocation is malformed; `Project.check` names the first such
entry, in the order in which the document lists them.  `Project.normalise` fills in what a parser may
leave out: a method without an owner belongs to the type that lists it, and a receiver of the void
type is a placeholder.
-/

set_option autoImplicit false

namespace CallCoupling

/-- The first null entry of a model. -/
inductive NullEntry where
  | type (index : Nat)
  | method (index : Nat) (owner : Name)
  | invocation (index : Nat) (owner method : Name)
deriving DecidableEq, Repr

namespace NullEntry

/-- Which entry is null. -/
def message : NullEntry → Loose
  | .type i => "malformed model: type " ++ toString i ++ " is null"
  | .method i owner =>
    Loose.join ["malformed model: method " ++ toString i ++ " of ", owner, " is null"]
  | .invocation i owner name =>
    Loose.join
      ["malformed model: invocation " ++ toString i ++ " of ", owner, ".", name, " is null"]

/-- The error as seen by callers. -/
def failure (e : NullEntry) : Failure := ⟨.malformedModel, e.message⟩

end NullEntry

namespace Invocation

/-- The first null invocation, counting from `k`. -/
def firstNull (owner method : Name) (k : Nat) : List (Option Invocation) → Option NullEntry
  | [] => none
  | none :: _ => some (.invocation k owner method)
  | some _ :: rest => firstNull owner method (k + 1) rest

end Invocation

namespace Method

/-- The first null entry among methods, counting from `j`. -/
def firstNull (owner : Name) (j : Nat) : List (Option Method) → Option NullEntry
  | [] => none
  | none :: _ => some (.method j owner)
  | some m :: rest =>
    match Invocation.firstNull owner m.name 0 m.invocations with
    | some e => some e
    | none => firstNull owner (j + 1) rest

end Method

namespace TypeDecl

/-- The first null entry among types, counting from `i`. -/
def firstNull (i : Nat) : List (Option TypeDecl) → Option NullEntry
  | [] => none
  | none :: _ => some (.type i)
  | some t :: rest =>
    match Method.firstNull t.name 0 t.methods with
    | some e => some e
    | none => firstNull (i + 1) rest

end TypeDecl

/-- The name that parsers give to the receiver of a chained call. -/
def voidType : Name := Loose.ofString "void"

namespace TypeRef

/-- A reference to the void type is a placeholder. -/
def normalise (r : TypeRef) : TypeRef :=
  if r.name = voidType then { r with synthetic := true } else r

end TypeRef

namespace Receiver

/-- Both references normalised. -/
def normalise (r : Receiver) : Receiver :=
  { declared := r.declared.map TypeRef.normalise, accessed := r.accessed.map TypeRef.normalise }

end Receiver

namespace Invocation

/-- The receiver normalised. -/
def normalise (i : Invocation) : Invocation := { i with receiver := i.receiver.normalise }

end Invocation

namespace Method

/-- A method without an owner belongs to the type that lists it. -/
def normalise (lister : Name) (m : Method) : Method :=
  { m with
    owner := if m.owner.isEmpty then lister else m.owner
    invocations := m.invocations.map (Option.map Invocation.normalise) }

end Method

namespace TypeDecl

/-- All methods normalised. -/
def normalise (t : TypeDecl) : TypeDecl :=
  { t with methods := t.methods.map (Option.map (Method.normalise t.name)) }

end TypeDecl

namespace Project

/-- Is there no null entry? -/
def check (p : Project) : Except NullEntry Unit :=
  match TypeDecl.firstNull 0 p.typeList with
  | some e => .error e
  | none => .ok ()

/-- Owners filled in and void receivers marked; null entries stay. -/
def normalise (p : Project) : Project :=
  { p with types := p.types.map fun ts => ts.map (Option.map TypeDecl.normalise) }

/-- The normal form of a model without null entries. -/
def normalise? (p : Project) : Except NullEntry Project :=
  match p.check with
  | .ok _ => .ok p.normalise
  | .error e => .error e

end Project

end CallCoupling
