import CallCoupling.Coupling.Matrix
import CallCoupling.Model.Resolution
import CallCoupling.Text.Letters

/-!
# Counting invocations

Every invocation counts once from the owner of its method to its receiver.  The declared types are
the initial labels; a policy says what happens to a count for a type outside them.
-/

set_option autoImplicit false

namespace CallCoupling

/-- What happens to a count whose type is outside the label set. -/
inductive Policy where
  /-- Skip the count and tally it. -/
  | drop
  /-- Append the type to the label set. -/
  | grow
  /-- Fail. -/
  | reject
deriving DecidableEq, Repr, Inhabited

/-- A policy name that is not known. -/
inductive PolicyError where
  | unknown (text : String)
deriving DecidableEq, Repr

namespace PolicyError

/-- The error as seen by callers. -/
def failure : PolicyError → Failure
  | .unknown s =>
    .other ("unknown out-of-set policy " ++ Text.quoted s ++ " (want drop, grow or reject)")

end PolicyError

namespace Policy

/-- The name of a policy. -/
def name : Policy → String
  | .drop => "drop"
  | .grow => "grow"
  | .reject => "reject"

/-- The policy with exactly this name; any other text means that counts are dropped. -/
def named (s : String) : Policy :=
  if s = "grow" then .grow else if s = "reject" then .reject else .drop

/-- A policy from a setting, without regard to case and surrounding blanks; nothing means drop. -/
def parse (s : String) : Except PolicyError Policy :=
  let word := Text.lower (Text.trim s)
  if word = "drop" || word = "" then .ok .drop
  else if word = "grow" then .ok .grow
  else if word = "reject" then .ok .reject
  else .error (.unknown s)

end Policy

/-- Why there is no matrix. -/
inductive CouplingError where
  | nullType
  | nullMethod
  | unresolved (method : Name) (e : ResolveError)
  | uncounted (method : Name) (e : MatrixError)
deriving DecidableEq, Repr

namespace CouplingError

/-- The error as seen by callers. -/
def failure : CouplingError → Failure
  | .nullType | .nullMethod => .fault
  | .unresolved method e => e.failure.within (Loose.ofString "coupling of " ++ method)
  | .uncounted method e => e.failure.within (Loose.ofString "coupling of " ++ method)

end CouplingError

namespace Matrix

/-- Bring a label into the set as the policy says: the matrix to go on with, or `none` if the count is
to be dropped. -/
def accept (policy : Policy) (m : Matrix) (label : Name) : Except MatrixError (Option Matrix) :=
  if m.has label then .ok (some m)
  else
    match policy with
    | .grow => .ok (some (m.addLabel label))
    | .reject => .error (.outOfSet label)
    | .drop => .ok none

/-- Count one invocation under a policy, the invoking type first. -/
def record (policy : Policy) (m : Matrix) (row col : Name) : Except MatrixError Matrix :=
  match m.accept policy row with
  | .error e => .error e
  | .ok none => .ok m.drop
  | .ok (some m) =>
    match m.accept policy col with
    | .error e => .error e
    | .ok none => .ok m.drop
    | .ok (some m) =>
      match m.increment row col with
      | (m, .ok ()) => .ok m
      | (_, .error e) => .error e

/-- Count one invocation of a method. -/
def countInvocation (chain : Chain) (policy : Policy) (method : Method) (m : Matrix)
    (i : Option Invocation) : Except CouplingError Matrix :=
  match chain.resolve i with
  | .error e => .error (.unresolved method.label e)
  | .ok receiver => (m.record policy method.owner receiver).mapError (.uncounted method.label)

/-- Count the invocations of a method. -/
def countInvocations (chain : Chain) (policy : Policy) (method : Method) :
    List (Option Invocation) → Matrix → Except CouplingError Matrix
  | [], m => .ok m
  | i :: is, m =>
    match m.countInvocation chain policy method i with
    | .error e => .error e
    | .ok m => countInvocations chain policy method is m

/-- Count the invocations of all methods. -/
def countMethods (chain : Chain) (policy : Policy) :
    List (Option Method) → Matrix → Except CouplingError Matrix
  | [], m => .ok m
  | none :: _, _ => .error .nullMethod
  | some method :: rest, m =>
    match countInvocations chain policy method method.invocations m with
    | .error e => .error e
    | .ok m => countMethods chain policy rest m

/-- The names of the declared types, if none of them is null. -/
def declaredLabels : List (Option TypeDecl) → Option (List Name)
  | [] => some []
  | none :: _ => none
  | some t :: rest => (declaredLabels rest).map (t.name :: ·)

/-- The coupling matrix of types and methods. -/
def build (types : List (Option TypeDecl)) (methods : List (Option Method)) (chain : Chain)
    (policy : Policy) : Except CouplingError Matrix :=
  match declaredLabels types with
  | none => .error .nullType
  | some labels => countMethods chain policy methods (ofLabels labels)

/-! ## What a detailed log shows of the count -/

/-- One step of the count. -/
inductive CountStep where
  | method (label owner : Name)
  | invocation (receiver method : Name)
  | dropped (count : Nat)
deriving DecidableEq, Repr

/-- The steps for the invocations of a method, and the matrix if none of them fails. -/
def traceInvocations (chain : Chain) (policy : Policy) (method : Method) :
    List (Option Invocation) → Matrix → List CountStep × Option Matrix
  | [], m => ([], some m)
  | i :: is, m =>
    match chain.resolve i with
    | .error _ => ([], none)
    | .ok receiver =>
      let step := CountStep.invocation receiver ((i.map Invocation.method).getD [])
      match m.countInvocation chain policy method i with
      | .error _ => ([step], none)
      | .ok m =>
        let (steps, m) := traceInvocations chain policy method is m
        (step :: steps, m)

/-- The steps for all methods; a count that succeeds ends with the number of dropped ones. -/
def traceMethods (chain : Chain) (policy : Policy) :
    List (Option Method) → Matrix → List CountStep
  | [], m => if m.dropped > 0 then [.dropped m.dropped] else []
  | none :: _, _ => []
  | some method :: rest, m =>
    let step := CountStep.method method.label method.owner
    match traceInvocations chain policy method method.invocations m with
    | (steps, none) => step :: steps
    | (steps, some m) => step :: steps ++ traceMethods chain policy rest m

/-- The steps of `build` up to its end or its first error. -/
def trace (types : List (Option TypeDecl)) (methods : List (Option Method)) (chain : Chain)
    (policy : Policy) : List CountStep :=
  match declaredLabels types with
  | none => []
  | some labels => traceMethods chain policy methods (ofLabels labels)

end Matrix

end CallCoupling
