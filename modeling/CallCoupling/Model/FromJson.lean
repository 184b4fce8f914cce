import CallCoupling.Json.Reader
import CallCoupling.Model.Basic
import CallCoupling.Text.Letters

/-!
# Models from JSON

A model is read by merging a document into an empty model.  Names of fields are compared without
regard to case and unknown fields are skipped.  Null keeps a text, a number or a truth value, and
clears an optional part or a list.  A field that is repeated merges into what is already there: texts
are replaced, records merge field by field, and lists merge item by item and take the new length.  What a
shorter list leaves behind its end comes back when a longer one follows, so reading keeps it: drafts are
the parts of a model with those items.  A value of the wrong kind anywhere makes the whole document
unreadable, which is `none` here.
-/

set_option autoImplicit false

namespace CallCoupling.Json

/-- A field with a name. -/
def mergeName (old : Name) : Json → Option Name
  | .null => some old
  | v => v.text?.map Loose.ofString

/-- A truth value field. -/
def mergeBool (old : Bool) : Json → Option Bool
  | .null => some old
  | .bool b => some b
  | _ => none

/-- A whole number field. -/
def mergeInt (old : Int) : Json → Option Int
  | .null => some old
  | v => v.int?

/-- Merge fields in order; `set` merges one field. -/
def mergeFields {α : Type} (set : α → String → Json → Option α) :
    List (String × Json) → α → Option α
  | [], a => some a
  | (k, v) :: rest, a =>
    match set a k v with
    | some a => mergeFields set rest a
    | none => none

/-- A record field. -/
def mergeRecord {α : Type} (set : α → String → Json → Option α) (old : α) : Json → Option α
  | .null => some old
  | v =>
    match v.fields? with
    | some fields => mergeFields set fields old
    | none => none

/-- An optional record; null clears it. -/
def mergeOption {α : Type} [Inhabited α] (set : α → String → Json → Option α) (old : Option α) :
    Json → Option (Option α)
  | .null => some none
  | v => (mergeRecord set (old.getD default) v).map some

/-- A list that is being read, with the items that longer lists before it have left behind its end. -/
structure Slots (α : Type) where
  items : List (Option α) := []
  spare : List (Option α) := []
deriving Inhabited

namespace Slots

/-- The items, each changed by `f`. -/
def finish {α β : Type} (f : α → β) (s : Slots α) : List (Option β) := s.items.map (·.map f)

end Slots

/-- Merge items by place; places past the old items start empty. -/
def mergeItems {α : Type} [Inhabited α] (set : α → String → Json → Option α) :
    List (Option α) → List Json → Option (List (Option α))
  | _, [] => some []
  | old, v :: vs =>
    match mergeOption set (old.head?.getD none) v, mergeItems set old.tail vs with
    | some a, some rest => some (a :: rest)
    | _, _ => none

/-- A list of records; null clears it, and an empty list leaves nothing behind its end. -/
def mergeList {α : Type} [Inhabited α] (set : α → String → Json → Option α)
    (old : Option (Slots α)) : Json → Option (Option (Slots α))
  | .null => some none
  | .array [] => some (some {})
  | .array vs =>
    let before := (old.map fun s => s.items ++ s.spare).getD []
    (mergeItems set before vs).map fun items => some { items, spare := before.drop vs.length }
  | _ => none

end CallCoupling.Json

namespace CallCoupling

open Text Json

namespace TypeRef

/-- Merge one field. -/
def setField (r : TypeRef) (key : String) (v : Json) : Option TypeRef :=
  if sameName key "name" then (mergeName r.name v).map fun name => { r with name }
  else if sameName key "synthetic" then
    (mergeBool r.synthetic v).map fun synthetic => { r with synthetic }
  else some r

end TypeRef

namespace Receiver

/-- Merge one field. -/
def setField (r : Receiver) (key : String) (v : Json) : Option Receiver :=
  if sameName key "type" then
    (mergeOption TypeRef.setField r.declared v).map fun declared => { r with declared }
  else if sameName key "accessedType" then
    (mergeOption TypeRef.setField r.accessed v).map fun accessed => { r with accessed }
  else some r

end Receiver

namespace Invocation

/-- Merge one field. -/
def setField (i : Invocation) (key : String) (v : Json) : Option Invocation :=
  if sameName key "method" then (mergeName i.method v).map fun method => { i with method }
  else if sameName key "receiver" then
    (mergeRecord Receiver.setField i.receiver v).map fun receiver => { i with receiver }
  else if sameName key "line" then (mergeInt i.line v).map fun line => { i with line }
  else some i

end Invocation

/-- A method that is being read. -/
structure MethodDraft where
  /-- The method without its call sites. -/
  frame : Method := {}
  invocations : Json.Slots Invocation := {}
deriving Inhabited

namespace MethodDraft

/-- Merge one field. -/
def setField (m : MethodDraft) (key : String) (v : Json) : Option MethodDraft :=
  let f := m.frame
  if sameName key "name" then
    (mergeName f.name v).map fun name => { m with frame := { f with name } }
  else if sameName key "signature" then
    (mergeName f.signature v).map fun signature => { m with frame := { f with signature } }
  else if sameName key "declaringType" then
    (mergeName f.owner v).map fun owner => { m with frame := { f with owner } }
  else if sameName key "invocations" then
    (mergeList Invocation.setField (some m.invocations) v).map fun is =>
      { m with invocations := is.getD {} }
  else some m

/-- The method that has been read. -/
def finish (m : MethodDraft) : Method := { m.frame with invocations := m.invocations.items }

end MethodDraft

/-- A type that is being read. -/
structure TypeDraft where
  name : Name := []
  methods : Json.Slots MethodDraft := {}
deriving Inhabited

namespace TypeDraft

/-- Merge one field. -/
def setField (t : TypeDraft) (key : String) (v : Json) : Option TypeDraft :=
  if sameName key "name" then (mergeName t.name v).map fun name => { t with name }
  else if sameName key "methods" then
    (mergeList MethodDraft.setField (some t.methods) v).map fun ms => { t with methods := ms.getD {} }
  else some t

/-- The type that has been read. -/
def finish (t : TypeDraft) : TypeDecl :=
  { name := t.name, methods := t.methods.finish MethodDraft.finish }

end TypeDraft

/-- A model that is being read. -/
structure ProjectDraft where
  name : Name := []
  types : Option (Json.Slots TypeDraft) := none
deriving Inhabited

namespace ProjectDraft

/-- Merge one field. -/
def setField (p : ProjectDraft) (key : String) (v : Json) : Option ProjectDraft :=
  if sameName key "name" then (mergeName p.name v).map fun name => { p with name }
  else if sameName key "types" then
    (mergeList TypeDraft.setField p.types v).map fun types => { p with types }
  else some p

/-- The model that has been read. -/
def finish (p : ProjectDraft) : Project :=
  { name := p.name, types := p.types.map (·.finish TypeDraft.finish) }

end ProjectDraft

namespace Project

/-- The model in a JSON value. -/
def ofJson? (v : Json) : Option Project :=
  (mergeRecord ProjectDraft.setField {} v).map ProjectDraft.finish

end Project

end CallCoupling
