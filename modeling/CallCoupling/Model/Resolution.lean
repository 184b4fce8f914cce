import CallCoupling.Failure
import CallCoupling.Model.Basic
import CallCoupling.Text.Quoted

/-!
# Receiver resolution

A channel is one way to find the receiver of an invocation. Two come with an invocation itself: the static type
of its receiver and the type through which the method is accessed. Others may stand beside them, so a channel is
any name with any function. A chain is an order of preference: the first channel with an answer names the receiver,
and without one the receiver is unresolved.
-/

set_option autoImplicit false

namespace CallCoupling

/-- A way to find the receiver of an invocation. -/
structure Channel where
  /-- The name in messages. -/
  name : Loose
  /-- The qualified name of the receiver type, if the channel has an answer. -/
  typeName? : Invocation → Option Name

namespace Channel

/-- The channel that reads one reference of the receiver; only a usable reference is an answer. -/
def ofReference (name : Loose) (reference : Receiver → Option TypeRef) : Channel where
  name
  typeName? i :=
    match reference i.receiver with
    | some ref => if ref.usable then some ref.name else none
    | none => none

/-- The static type of the receiver. -/
def declared : Channel := ofReference "type" Receiver.declared

/-- The type through which the method is accessed. -/
def accessed : Channel := ofReference "accessed-type" Receiver.accessed

end Channel

/-- Channels in order of preference. -/
abbrev Chain := List Channel

/-- Why an invocation has no receiver. -/
inductive ResolveError where
  /-- There is no invocation. -/
  | nullInvocation
  /-- No channel of the chain has an answer; the names are those of all channels. -/
  | unresolved (method : Name) (tried : List Loose)
deriving DecidableEq, Repr

namespace ResolveError

/-- The text of the error. -/
def message : ResolveError → Loose
  | .nullInvocation => "unresolved receiver: nil invocation"
  | .unresolved method tried =>
    Loose.join ["unresolved receiver: invocation of ", Text.quotedLoose method, " (tried ",
      Loose.join (tried.intersperse ", "), ")"]

/-- The error as seen by callers. -/
def failure (e : ResolveError) : Failure := ⟨.unresolvedReceiver, e.message⟩

end ResolveError

namespace Chain

/-- The static type first, then the accessed type. -/
def standard : Chain := [.declared, .accessed]

/-- The qualified name of the receiver type. -/
def resolve (chain : Chain) : Option Invocation → Except ResolveError Name
  | none => .error .nullInvocation
  | some i =>
    match chain.findSome? (·.typeName? i) with
    | some name => .ok name
    | none => .error (.unresolved i.method (chain.map Channel.name))

end Chain

end CallCoupling
