import CallCoupling.Text.Loose

/-!
# The program model

A project is a list of types with their methods, and every method lists the invocations in its body.
A model document may hold null where a type, a method or an invocation is expected, so those lists
hold options; `Project.check` (in `Model.Normal`) is what shuts them out.  It may also spell a name by its
bytes, so names are loose text.
-/

set_option autoImplicit false

namespace CallCoupling

/-- A name in a model. -/
abbrev Name := Loose

/-- A reference to a type.  A synthetic one is a placeholder and stands for no real type. -/
structure TypeRef where
  name : Name := []
  synthetic : Bool := false
deriving DecidableEq, Repr, Inhabited

/-- What the parser knows about the receiver of an invocation. -/
structure Receiver where
  /-- The static type of the receiver expression. -/
  declared : Option TypeRef := none
  /-- The type through which the method is accessed. -/
  accessed : Option TypeRef := none
deriving DecidableEq, Repr, Inhabited

/-- One call site in a method body. -/
structure Invocation where
  method : Name := []
  receiver : Receiver := {}
  line : Int := 0
deriving DecidableEq, Repr, Inhabited

/-- A method with its call sites in source order. -/
structure Method where
  name : Name := []
  signature : Name := []
  /-- The qualified name of the type that declares the method. -/
  owner : Name := []
  invocations : List (Option Invocation) := []
deriving DecidableEq, Repr, Inhabited

/-- A declared type with its methods. -/
structure TypeDecl where
  name : Name := []
  methods : List (Option Method) := []
deriving DecidableEq, Repr, Inhabited

/-- A program: its types, or `none` if the document has no list of them. -/
structure Project where
  name : Name := []
  types : Option (List (Option TypeDecl)) := none
deriving DecidableEq, Repr, Inhabited

namespace TypeRef

/-- Does the reference name a real type? -/
def usable (r : TypeRef) : Bool := !r.synthetic && !r.name.isEmpty

end TypeRef

namespace Method

/-- The owner with the signature, or with the plain name if there is no signature. -/
def label (m : Method) : Name :=
  m.owner ++ Loose.ofString "#" ++ (if m.signature.isEmpty then m.name else m.signature)

end Method

namespace Project

/-- The declared types, null entries included. -/
def typeList (p : Project) : List (Option TypeDecl) := p.types.getD []

/-- All methods in order, those of null types left out. -/
def methods (p : Project) : List (Option Method) :=
  p.typeList.flatMap fun
    | some t => t.methods
    | none => []

/-- The names of the types in order, null types left out. -/
def typeNames (p : Project) : List Name :=
  p.typeList.filterMap fun t => t.map TypeDecl.name

/-- The number of call sites, null ones included and those of null methods left out. -/
def invocationCount (p : Project) : Nat :=
  (p.methods.map fun
    | some m => m.invocations.length
    | none => 0).foldr (· + ·) 0

end Project

end CallCoupling
