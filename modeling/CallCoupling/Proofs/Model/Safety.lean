import CallCoupling.Proofs.Defects
import CallCoupling.Proofs.Guarded
import CallCoupling.Proofs.Model.RoundTrip

/-!
# A decoded model can be analysed

Decoding checks a model and brings it into normal form, and the analyses rely on both without looking again.
`Project.Safe` says what they may rely on: no analysis meets a null entry or leaves a table, no receiver is the
void type, and an analysis that fails does so for a reason of the model and not of the program. Every decoded model
is safe, whatever its bytes and in either format (`Project.safe_of_decode`).

Nothing is asked here of how a document was read. Two facts about the model are enough, that it is complete and
that it is its own normal form, and the second is used part by part: each type, method and invocation in the model
is its own normal form too. So no usable reference is to the void type, and a method without an owner is listed by
a type without a name.
-/

set_option autoImplicit false

namespace CallCoupling

/-! ## 1. The parts of a model in normal form -/

theorem eq_of_map_eq_self {α : Type} {f : α → α} {l : List (Option α)} (h : l.map (·.map f) = l) {a : α}
    (ha : some a ∈ l) : f a = a := by
  have hid : l.map (·.map f) = l.map id := by rw [h, List.map_id]
  exact Option.some.inj (List.map_inj_left.1 hid _ ha)

theorem Project.normalise_type {p : Project} (hp : p.normalise = p) {decl : TypeDecl}
    (h : some decl ∈ p.typeList) : decl.normalise = decl := by
  have hlist : p.typeList.map (·.map TypeDecl.normalise) = p.typeList := by
    rw [← Project.typeList_normalise, hp]
  exact eq_of_map_eq_self hlist h

theorem TypeDecl.normalise_method {decl : TypeDecl} (hdecl : decl.normalise = decl) {m : Method}
    (h : some m ∈ decl.methods) : m.normalise decl.name = m :=
  eq_of_map_eq_self (congrArg TypeDecl.methods hdecl) h

theorem Method.normalise_invocation {lister : Name} {m : Method} (hm : m.normalise lister = m) {i : Invocation}
    (h : some i ∈ m.invocations) : i.normalise = i :=
  eq_of_map_eq_self (congrArg Method.invocations hm) h

theorem TypeRef.name_ne_void {r : TypeRef} (hr : r.normalise = r) (husable : r.usable = true) :
    r.name ≠ voidType := by
  intro hvoid
  have hsynthetic : r.synthetic = true := by
    rw [← hr, TypeRef.normalise, if_pos hvoid]
  simp [TypeRef.usable, hsynthetic] at husable

/-- The references of a receiver in normal form are in normal form. -/
theorem Receiver.normalise_reference {r : Receiver} (hr : r.normalise = r) {ref : TypeRef}
    (h : r.declared = some ref ∨ r.accessed = some ref) : ref.normalise = ref := by
  rcases h with h | h
  · have hdeclared : r.declared.map TypeRef.normalise = r.declared := congrArg Receiver.declared hr
    rw [h] at hdeclared
    exact Option.some.inj hdeclared
  · have haccessed : r.accessed.map TypeRef.normalise = r.accessed := congrArg Receiver.accessed hr
    rw [h] at haccessed
    exact Option.some.inj haccessed

/-- **No receiver of a model in normal form is the void type.** -/
theorem Invocation.resolve_ne_void {i : Invocation} (hi : i.normalise = i) {chain : Chain} (hchain : chain.Plain)
    {name : Name} (h : chain.resolve (some i) = .ok name) : name ≠ voidType := by
  obtain ⟨_, ref, hsome, href, husable, rfl⟩ := hchain.resolve_eq_ok h
  cases hsome
  have hreceiver : i.receiver.normalise = i.receiver := congrArg Invocation.receiver hi
  exact TypeRef.name_ne_void (Receiver.normalise_reference hreceiver href) husable

theorem Method.owner_ne_nil {lister : Name} {m : Method} (hm : m.normalise lister = m) (hlister : lister ≠ []) :
    m.owner ≠ [] := by
  intro howner
  have : lister = [] := by
    have hfilled : (m.normalise lister).owner = lister := by simp [Method.normalise, howner]
    rw [← hfilled, hm, howner]
  exact hlister this

/-! ## 2. What the analyses rely on -/

/-- **What every analysis of a model may rely on**, under any policy and any chain; for chains of other channels than
    the two of an invocation nothing is promised about the receivers. -/
structure Project.Safe (p : Project) : Prop where
  normal : p.normalise = p
  complete : p.Complete
  methods : ∀ m ∈ p.methods, ∃ method, m = some method ∧ method.Complete
  receiver : ∀ (chain : Chain) (method : Method) (i : Option Invocation) (name : Name), chain.Plain →
    some method ∈ p.methods → i ∈ method.invocations → chain.resolve i = .ok name →
      name ≠ [] ∧ name ≠ voidType
  graph : ∀ chain, Graph.ofMethods? p.methods chain = some (Graph.ofMethods p.methods chain)
  document : ∀ chain g, Graph.ofMethods p.methods chain = .ok g → g.document? = some g.document
  /-- A type may well be named void, but nothing calls it. -/
  void : ∀ (chain : Chain) g (i : Nat), chain.Plain → Graph.ofMethods p.methods chain = .ok g →
    g.id? voidType = some i → i ∈ g.callers ∧ g.multiplicityOf i = 0
  matrix : ∀ chain policy, Matrix.build? p.typeList p.methods chain (Policy.named policy) =
    some (Matrix.build p.typeList p.methods chain (Policy.named policy))
  table : ∀ chain policy m, Matrix.build p.typeList p.methods chain (Policy.named policy) = .ok m →
    m.table? = some m.table
  graph_error : (∀ name ∈ p.typeNames, name ≠ []) →
    ∀ (chain : Chain) e, chain.Plain → Graph.ofMethods p.methods chain = .error e →
      (ClassGraphError.failure e).cause = .unresolvedReceiver
  matrix_error : ∀ chain policy e,
    Matrix.build p.typeList p.methods chain (Policy.named policy) = .error e →
      (CouplingError.failure e).cause = .unresolvedReceiver ∨
        policy = "reject" ∧ (CouplingError.failure e).cause = .outOfSetLabel

/-! ## 3. The void type is called by nobody -/

/-- The methods of a model in normal form, with normal invocations. -/
theorem Project.normalise_of_mem_methods {p : Project} (hp : p.normalise = p) {method : Method}
    (h : some method ∈ p.methods) :
    ∃ decl, some decl ∈ p.typeList ∧ method.normalise decl.name = method := by
  obtain ⟨decl, hdecl, hmethod⟩ := Project.mem_methods.1 h
  exact ⟨decl, hdecl, TypeDecl.normalise_method (Project.normalise_type hp hdecl) hmethod⟩

theorem Project.resolve_ne_void {p : Project} (hp : p.normalise = p) {method : Method}
    (hmethod : some method ∈ p.methods) {i : Option Invocation} (hi : i ∈ method.invocations) {chain : Chain}
    (hchain : chain.Plain) {name : Name} (h : chain.resolve i = .ok name) : name ≠ voidType := by
  obtain ⟨decl, -, hnormal⟩ := Project.normalise_of_mem_methods hp hmethod
  cases i with
  | none => cases h
  | some invocation => exact Invocation.resolve_ne_void (Method.normalise_invocation hnormal hi) hchain h

/-- **A node that no call site targets is a caller**, and its multiplicity is zero. -/
theorem Graph.idle_of_not_target {methods : List Method} {chain : Chain} {g : Graph}
    (hok : Graph.ofMethods (methods.map some) chain = .ok g) {a : Name}
    (ha : ∀ site ∈ chain.callSites methods, site.2 ≠ a) {i : Nat} (hi : g.id? a = some i) :
    i ∈ g.callers ∧ g.multiplicityOf i = 0 := by
  obtain ⟨h, hshows, -, -, hcalls⟩ := Graph.shows_of_ofMethods hok
  have hname : g.names[i]? = some a := hshows.id?_eq_some.1 hi
  constructor
  · have hseen : a ∈ h.names := by
      have hmem := List.mem_of_getElem? hname
      rw [hshows.names] at hmem
      exact List.mem_eraseDups.1 hmem
    -- A name is seen as a caller or as a target, and it is no target.
    rcases History.mem_names_iff.1 hseen with hcaller | ⟨call, hcall, htarget⟩
    · exact hshows.mem_callers.2 ⟨a, hname, hcaller⟩
    · exact absurd htarget (ha call (hcalls ▸ hcall))
  · rw [hshows.multiplicityOf hname]
    refine List.countP_eq_zero.2 fun call hcall => ?_
    simpa using ha call (hcalls ▸ hcall)

/-! ## 4. Errors -/

theorem MatrixError.cause_failure (e : MatrixError) : e.failure.cause = .outOfSetLabel := by
  cases e with
  | unknownRow label => rfl
  | unknownColumn label => rfl
  | outOfSet label => rfl

/-- **A count fails for want of a receiver, or because it rejects.** -/
theorem Matrix.cause_of_build {types : List TypeDecl} {methods : List Method} {chain : Chain} {policy : Policy}
    {e : CouplingError} (h : Matrix.build (types.map some) (methods.map some) chain policy = .error e) :
    (CouplingError.failure e).cause = .unresolvedReceiver ∨
      policy = .reject ∧ (CouplingError.failure e).cause = .outOfSetLabel := by
  -- Only a policy that rejects has a second kind of defect.
  by_cases hpolicy : policy = .reject
  · obtain ⟨call, -, hdefect⟩ := List.exists_of_findSome?_eq_some (Matrix.build_eq_error_iff.1 h)
    unfold Policy.defect? at hdefect
    cases hreceiver : chain.resolve call.2 with
    | error r =>
      simp only [hreceiver, Option.some.injEq] at hdefect
      rw [← hdefect]
      exact Or.inl rfl
    | ok receiver =>
      simp only [hreceiver, Option.map_eq_some_iff] at hdefect
      obtain ⟨refused, -, rfl⟩ := hdefect
      exact Or.inr ⟨hpolicy, refused.cause_failure⟩
  · obtain ⟨found, -, rfl⟩ := (Matrix.build_unresolved hpolicy types methods chain e).1 h
    exact Or.inl rfl

/-- **A visit of methods with owners fails for want of a receiver only.** -/
theorem Graph.cause_of_ofMethods {methods : List Method} (howners : ∀ method ∈ methods, method.owner ≠ [])
    {chain : Chain} (hchain : chain.Plain) {e : ClassGraphError}
    (h : Graph.ofMethods (methods.map some) chain = .error e) :
    (ClassGraphError.failure e).cause = .unresolvedReceiver := by
  obtain ⟨found, -, rfl⟩ := (Graph.ofMethods_eq_error_iff howners hchain).1 h
  rfl

theorem Policy.eq_reject_of_named {policy : String} (h : Policy.named policy = .reject) : policy = "reject" := by
  unfold Policy.named at h
  split at h
  · cases h
  · split at h
    · assumption
    · cases h

theorem Project.owner_ne_nil {p : Project} (hp : p.normalise = p) (hnames : ∀ name ∈ p.typeNames, name ≠ [])
    {method : Method} (h : some method ∈ p.methods) : method.owner ≠ [] := by
  obtain ⟨decl, hdecl, hnormal⟩ := Project.normalise_of_mem_methods hp h
  exact Method.owner_ne_nil hnormal (hnames _ (List.mem_filterMap.2 ⟨_, hdecl, rfl⟩))

/-! ## 5. Decoded models -/

/-- **A complete model in normal form is safe**, however it came about. -/
theorem Project.Complete.safe {p : Project} (hp : p.Complete) (hnormal : p.normalise = p) : p.Safe := by
  obtain ⟨types, methods, htypes, hmethods, hcomplete⟩ := hp.exists_lists
  have hlisted : ∀ method ∈ methods, some method ∈ p.methods := by
    intro method hmethod
    rw [hmethods]
    exact List.mem_map_of_mem hmethod
  constructor
  case normal => exact hnormal
  case complete => exact hp
  case methods =>
    intro m hm
    rw [hmethods] at hm
    obtain ⟨method, hmethod, rfl⟩ := List.mem_map.1 hm
    exact ⟨method, rfl, hcomplete method hmethod⟩
  case receiver =>
    intro chain method i name hchain hmethod hi h
    exact ⟨hchain.resolve_ne_nil h, Project.resolve_ne_void hnormal hmethod hi hchain h⟩
  case graph =>
    intro chain
    rw [hmethods]
    exact Graph.ofMethods?_eq methods chain
  case document =>
    intro chain g hok
    rw [hmethods] at hok
    obtain ⟨h, hshows, hsound, -⟩ := Graph.shows_of_ofMethods hok
    exact Graph.Coherent.document? ⟨h, hshows, hsound⟩
  case void =>
    intro chain g i hchain hok hi
    rw [hmethods] at hok
    refine Graph.idle_of_not_target hok (fun site hsite => ?_) hi
    obtain ⟨method, hmethod, -, invocation, hinvocation, h⟩ := Chain.mem_callSites.1 hsite
    exact Project.resolve_ne_void hnormal (hlisted method hmethod) hinvocation hchain h
  case matrix =>
    intro chain policy
    rw [htypes, hmethods]
    exact (Matrix.build?_eq types methods chain (Policy.named policy)).1
  case table =>
    intro chain policy m hok
    rw [htypes, hmethods] at hok
    exact ((Matrix.build?_eq types methods chain (Policy.named policy)).2 m hok).table?
  case graph_error =>
    intro hnames chain e hchain h
    rw [hmethods] at h
    refine Graph.cause_of_ofMethods (fun method hmethod => ?_) hchain h
    exact Project.owner_ne_nil hnormal hnames (hlisted method hmethod)
  case matrix_error =>
    intro chain policy e h
    rw [htypes, hmethods] at h
    rcases Matrix.cause_of_build h with hcause | ⟨hpolicy, hcause⟩
    · exact Or.inl hcause
    · exact Or.inr ⟨Policy.eq_reject_of_named hpolicy, hcause⟩

/-- **Every decoded model is safe to analyse.** -/
theorem Project.safe_of_decode {bytes : List UInt8} {ext : String} {p : Project}
    (h : Project.decode bytes ext = .ok p) : p.Safe := by
  obtain ⟨q, -, hcomplete, rfl⟩ := Project.decode_eq_ok_iff.1 h
  exact hcomplete.normalise.safe q.normalise_normalise

/-- A type named void, with a call whose static type is void: the call goes to the accessed type, the node of the
type is called by nobody, and a count that rejects stops at the accessed type. -/
theorem Project.safe_of_decode_void :
    let call : Invocation := { receiver := { declared := some { name := "void" }, accessed := some { name := "B" } } }
    let p : Project := { types := some [some { name := "void", methods := [some { invocations := [some call] }] }] }
    Project.decode p.render ".json" = .ok p.normalise ∧ p.normalise.Safe ∧
      (∃ g, Graph.ofMethods p.normalise.methods Chain.standard = .ok g ∧ g.id? voidType = some 0 ∧
        0 ∈ g.callers ∧ g.multiplicityOf 0 = 0) ∧
      ∃ e, Matrix.build p.normalise.typeList p.normalise.methods Chain.standard (Policy.named "reject") = .error e ∧
        (CouplingError.failure e).cause = .outOfSetLabel := by
  intro call p
  have hparse : Project.parse p.render ".json" = .ok p := Project.parse_render (by decide) (by cbv)
  have hdecode : Project.decode p.render ".json" = .ok p.normalise :=
    Project.decode_eq_ok_iff.2 ⟨p, hparse, Project.check_eq_ok_iff.1 rfl, rfl⟩
  have hsafe := Project.safe_of_decode hdecode
  refine ⟨hdecode, hsafe, ⟨_, rfl, rfl, ?_⟩, ⟨_, rfl, ?_⟩⟩
  · exact hsafe.void Chain.standard _ 0 Chain.plain_standard rfl rfl
  · rcases hsafe.matrix_error Chain.standard "reject" _ rfl with hcause | hcause
    · cases hcause
    · exact hcause.2

end CallCoupling
