import CallCoupling.Proofs.Agreement

/-!
# Graph and matrix fail alike

The graph and the matrix of some methods are made by two loops that report errors in their own ways. Both stop
at the first invocation that they cannot use, and for the same reason: the chain finds no receiver for it. The
exception is a matrix that rejects, which also stops at an invocation with an end that is not declared.

This is so for chains that are plain, that is made of the two channels of an invocation (`Chain.Plain`). A channel
of another kind may answer with the empty name, which a matrix counts and a graph refuses.

Both are described here without their loops, by a search over the invocations in order (`Method.calls`). The
defect of one invocation is a function of that invocation, of the declared names and of the policy
(`Policy.defect?`), and not of what was counted before; that is the point at which growing and dropping are
seen never to fail. `Matrix.build_cases` and `Graph.ofMethods_cases` then say of each loop that it answers with
the first defect, or else with a result.
-/

set_option autoImplicit false

namespace CallCoupling

/-- The chain is made of the two channels of an invocation, in any order and number. -/
def Chain.Plain (chain : Chain) : Prop := ∀ channel ∈ chain, channel = .declared ∨ channel = .accessed

theorem Chain.plain_standard : Chain.standard.Plain := by
  simp [Chain.Plain, Chain.standard]

/-- The invocations of some methods in order, each with its method. -/
def Method.calls (methods : List Method) : List (Method × Option Invocation) :=
  methods.flatMap fun method => method.invocations.map (method, ·)

/-- An invocation without a receiver: its method, and what the chain says of it. -/
def Chain.unresolved? (chain : Chain) (call : Method × Option Invocation) :
    Option (Method × ResolveError) :=
  match chain.resolve call.2 with
  | .error e => some (call.1, e)
  | .ok _ => none

/-- Why a policy refuses to count from `a` to `b`: the first end that is not declared. -/
def Policy.refusal? (policy : Policy) (declared : List Name) (a b : Name) : Option MatrixError :=
  match policy with
  | .reject =>
    if a ∉ declared then some (.outOfSet a)
    else if b ∉ declared then some (.outOfSet b)
    else none
  | .drop | .grow => none

/-- Why an invocation cannot be counted; that it has no receiver comes before its ends. -/
def Policy.defect? (policy : Policy) (chain : Chain) (declared : List Name)
    (call : Method × Option Invocation) : Option CouplingError :=
  match chain.resolve call.2 with
  | .error e => some (.unresolved call.1.label e)
  | .ok receiver => (policy.refusal? declared call.1.owner receiver).map (.uncounted call.1.label)

/-- One failure is another under headings: the same cause, and its text at the end. -/
def Failure.Wraps (f inner : Failure) : Prop := f.cause = inner.cause ∧ inner.message <:+ f.message

theorem Failure.wraps_within (f : Failure) (heading : Loose) : (f.within heading).Wraps f :=
  ⟨rfl, List.suffix_append _ _⟩

theorem Failure.Wraps.within {f inner : Failure} (h : f.Wraps inner) (heading : Loose) :
    (f.within heading).Wraps inner :=
  ⟨h.1, h.2.trans (List.suffix_append _ _)⟩

theorem Method.calls_cons (method : Method) (methods : List Method) :
    Method.calls (method :: methods) =
      method.invocations.map (method, ·) ++ Method.calls methods := List.flatMap_cons

/-! ## 1. Counting one invocation -/

theorem Policy.refusal?_eq_none {policy : Policy} (hpolicy : policy ≠ .reject) (declared : List Name)
    (a b : Name) : policy.refusal? declared a b = none := by
  cases policy with
  | reject => exact absurd rfl hpolicy
  | drop => rfl
  | grow => rfl

/-- **A call site is refused as its policy says, or it is counted.** -/
theorem Matrix.Tallies.record_cases {m : Matrix} {policy : Policy} {declared : List Name}
    {sites : List (Name × Name)} (hm : m.Tallies policy declared sites) (a b : Name) :
    (∃ e, policy.refusal? declared a b = some e ∧ m.record policy a b = .error e) ∨
      (policy.refusal? declared a b = none ∧
        ∃ m', m.record policy a b = .ok m' ∧ m'.Tallies policy declared (sites ++ [(a, b)])) := by
  by_cases hin : a ∈ m.labels ∧ b ∈ m.labels
  · -- Between labels every policy counts, and a rejecting matrix has no labels but the declared ones.
    obtain ⟨m', hok, -⟩ := hm.counts.record_known policy hin.1 hin.2
    refine Or.inr ⟨?_, m', hok, hm.record hok⟩
    cases policy with
    | reject =>
      have hlabels : m.labels = declared := hm.labels
      rw [hlabels] at hin
      simp [Policy.refusal?, hin]
    | drop => rfl
    | grow => rfl
  · cases policy with
    | reject =>
      have hlabels : m.labels = declared := hm.labels
      have herr := hm.counts.record_reject hin
      refine Or.inl ⟨_, ?_, herr⟩
      rw [hlabels] at hin ⊢
      by_cases ha : a ∈ declared
      · have hb : b ∉ declared := fun hb => hin ⟨ha, hb⟩
        simp [Policy.refusal?, ha, hb]
      · simp [Policy.refusal?, ha]
    | drop =>
      have hok := hm.counts.record_drop hin
      exact Or.inr ⟨rfl, m.drop, hok, hm.record hok⟩
    | grow =>
      have hzero : ∀ l ∉ m.labels, ∀ x, sites.count (x, l) = 0 ∧ sites.count (l, x) = 0 := by
        intro l hl
        exact Policy.count_eq_zero_of_not_mem (hm.labels ▸ hl)
      obtain ⟨m', hok, -⟩ := hm.counts.record_grow a b hzero
      exact Or.inr ⟨rfl, m', hok, hm.record hok⟩

theorem Matrix.Tallies.countInvocation_cases {m : Matrix} {policy : Policy} {declared : List Name}
    {sites : List (Name × Name)} (hm : m.Tallies policy declared sites) (chain : Chain) (method : Method)
    (i : Option Invocation) :
    (∃ e, policy.defect? chain declared (method, i) = some e ∧
        m.countInvocation chain policy method i = .error e) ∨
      (policy.defect? chain declared (method, i) = none ∧
        ∃ m' sites', m.countInvocation chain policy method i = .ok m' ∧
          m'.Tallies policy declared sites') := by
  unfold Policy.defect? Matrix.countInvocation
  cases hi : chain.resolve i with
  | error e => exact Or.inl ⟨_, rfl, rfl⟩
  | ok receiver =>
    rcases hm.record_cases method.owner receiver with ⟨e, hrefused, herr⟩ | ⟨hcounted, m', hok, hm'⟩
    · exact Or.inl ⟨.uncounted method.label e, by simp [hrefused], by simp [herr, Except.mapError]⟩
    · exact Or.inr ⟨by simp [hcounted], m', _, by simp [hok, Except.mapError], hm'⟩

/-! ## 2. Counting all of them -/

theorem Matrix.Tallies.countInvocations_cases {m : Matrix} {policy : Policy} {declared : List Name}
    {sites : List (Name × Name)} (hm : m.Tallies policy declared sites) (chain : Chain) (method : Method)
    (is : List (Option Invocation)) :
    (∃ e, (is.map (method, ·)).findSome? (policy.defect? chain declared) = some e ∧
        Matrix.countInvocations chain policy method is m = .error e) ∨
      ((is.map (method, ·)).findSome? (policy.defect? chain declared) = none ∧
        ∃ m' sites', Matrix.countInvocations chain policy method is m = .ok m' ∧
          m'.Tallies policy declared sites') := by
  induction is generalizing m sites with
  | nil => exact Or.inr ⟨rfl, m, sites, rfl, hm⟩
  | cons i is ih =>
    rw [List.map_cons, List.findSome?_cons]
    unfold Matrix.countInvocations
    rcases hm.countInvocation_cases chain method i with ⟨e, hdefect, herr⟩ | ⟨hnone, m₁, sites₁, hok, hm₁⟩
    · exact Or.inl ⟨e, by rw [hdefect], by rw [herr]⟩
    · rw [hnone, hok]
      exact ih hm₁

theorem Matrix.Tallies.countMethods_cases {m : Matrix} {policy : Policy} {declared : List Name}
    {sites : List (Name × Name)} (hm : m.Tallies policy declared sites) (chain : Chain)
    (methods : List Method) :
    (∃ e, (Method.calls methods).findSome? (policy.defect? chain declared) = some e ∧
        Matrix.countMethods chain policy (methods.map some) m = .error e) ∨
      ((Method.calls methods).findSome? (policy.defect? chain declared) = none ∧
        ∃ m', Matrix.countMethods chain policy (methods.map some) m = .ok m') := by
  induction methods generalizing m sites with
  | nil => exact Or.inr ⟨rfl, m, rfl⟩
  | cons method methods ih =>
    rw [Method.calls_cons, List.findSome?_append, List.map_cons]
    unfold Matrix.countMethods
    rcases hm.countInvocations_cases chain method method.invocations with
      ⟨e, hdefect, herr⟩ | ⟨hnone, m₁, sites₁, hok, hm₁⟩
    · exact Or.inl ⟨e, by rw [hdefect]; rfl, by rw [herr]⟩
    · rw [hnone, hok]
      exact ih hm₁

theorem Policy.defect?_eraseDups (policy : Policy) (chain : Chain) (declared : List Name) :
    policy.defect? chain declared.eraseDups = policy.defect? chain declared := by
  have hrefusal : ∀ a b, policy.refusal? declared.eraseDups a b = policy.refusal? declared a b := by
    intro a b
    cases policy with
    | reject => simp only [Policy.refusal?, List.mem_eraseDups]
    | drop => rfl
    | grow => rfl
  funext call
  simp only [Policy.defect?, hrefusal]

/-- **A count answers with the first defect, or else with a matrix.** -/
theorem Matrix.build_cases (types : List TypeDecl) (methods : List Method) (chain : Chain)
    (policy : Policy) :
    (∃ e, (Method.calls methods).findSome? (policy.defect? chain (types.map TypeDecl.name)) = some e ∧
        Matrix.build (types.map some) (methods.map some) chain policy = .error e) ∨
      ((Method.calls methods).findSome? (policy.defect? chain (types.map TypeDecl.name)) = none ∧
        ∃ m, Matrix.build (types.map some) (methods.map some) chain policy = .ok m) := by
  have hcases := (Matrix.tallies_ofLabels policy (types.map TypeDecl.name)).countMethods_cases chain methods
  rw [Policy.defect?_eraseDups] at hcases
  rw [Matrix.build, Matrix.declaredLabels_map_some]
  exact hcases

theorem Matrix.build_eq_error_iff {types : List TypeDecl} {methods : List Method} {chain : Chain}
    {policy : Policy} {e : CouplingError} :
    Matrix.build (types.map some) (methods.map some) chain policy = .error e ↔
      (Method.calls methods).findSome? (policy.defect? chain (types.map TypeDecl.name)) = some e := by
  rcases Matrix.build_cases types methods chain policy with ⟨e', hfirst, herr⟩ | ⟨hnone, m, hok⟩
  · rw [herr, hfirst, Except.error.injEq, Option.some.injEq]
  · rw [hok, hnone]
    exact ⟨nofun, nofun⟩

/-- Growing and dropping stop at invocations without a receiver only. -/
theorem Policy.findSome?_defect {policy : Policy} (hpolicy : policy ≠ .reject) (chain : Chain)
    (declared : List Name) (calls : List (Method × Option Invocation)) :
    calls.findSome? (policy.defect? chain declared) =
      (calls.findSome? chain.unresolved?).map fun found => .unresolved found.1.label found.2 := by
  rw [List.map_findSome?]
  congr 1
  funext call
  rw [Function.comp_apply, Policy.defect?, Chain.unresolved?]
  cases chain.resolve call.2 with
  | error e => rfl
  | ok receiver =>
    show (policy.refusal? declared call.1.owner receiver).map _ = none
    rw [Policy.refusal?_eq_none hpolicy]
    rfl

/-! ## 3. The graph -/

/-- A receiver is the answer of some channel of the chain. -/
theorem Chain.exists_channel_of_resolve {chain : Chain} {i : Option Invocation} {name : Name}
    (h : chain.resolve i = .ok name) :
    ∃ invocation channel, i = some invocation ∧ channel ∈ chain ∧ channel.typeName? invocation = some name := by
  cases i with
  | none => cases h
  | some invocation =>
    unfold Chain.resolve at h
    cases hfound : chain.findSome? (·.typeName? invocation) with
    | none => simp [hfound] at h
    | some found =>
      simp only [hfound, Except.ok.injEq] at h
      subst h
      obtain ⟨channel, hchannel, hname⟩ := List.exists_of_findSome?_eq_some hfound
      exact ⟨invocation, channel, rfl, hchannel, hname⟩

theorem Channel.ofReference_eq_some {label : Loose} {reference : Receiver → Option TypeRef} {i : Invocation}
    {name : Name} :
    (Channel.ofReference label reference).typeName? i = some name ↔
      ∃ ref, reference i.receiver = some ref ∧ ref.usable = true ∧ ref.name = name := by
  simp only [Channel.ofReference]
  cases reference i.receiver with
  | none => simp
  | some ref => simp

/-- The receiver that a plain chain finds is the name of a usable reference. -/
theorem Chain.Plain.resolve_eq_ok {chain : Chain} (hchain : chain.Plain) {i : Option Invocation} {name : Name}
    (h : chain.resolve i = .ok name) :
    ∃ invocation ref, i = some invocation ∧
      (invocation.receiver.declared = some ref ∨ invocation.receiver.accessed = some ref) ∧
      ref.usable = true ∧ ref.name = name := by
  obtain ⟨invocation, channel, rfl, hchannel, hname⟩ := Chain.exists_channel_of_resolve h
  rcases hchain channel hchannel with rfl | rfl
  · obtain ⟨ref, href, hanswer⟩ := Channel.ofReference_eq_some.1 hname
    exact ⟨invocation, ref, rfl, Or.inl href, hanswer⟩
  · obtain ⟨ref, href, hanswer⟩ := Channel.ofReference_eq_some.1 hname
    exact ⟨invocation, ref, rfl, Or.inr href, hanswer⟩

theorem Chain.Plain.resolve_ne_nil {chain : Chain} (hchain : chain.Plain) {i : Option Invocation} {name : Name}
    (h : chain.resolve i = .ok name) : name ≠ [] := by
  obtain ⟨-, ref, -, -, husable, rfl⟩ := hchain.resolve_eq_ok h
  rw [TypeRef.usable, Bool.and_eq_true] at husable
  simpa using husable.2

/-- A method with an owner is no defect itself, and an invocation is one exactly if it has no receiver. -/
theorem Graph.findSome?_defect_methods {methods : List Method}
    (howners : ∀ method ∈ methods, method.owner ≠ []) {chain : Chain} (hchain : chain.Plain) :
    (places (fun m => (m.map Method.invocations).getD []) (methods.map some)).findSome?
        (Place.defect? Graph.ownerName (Graph.receiverName chain)) =
      ((Method.calls methods).findSome? chain.unresolved?).map fun found =>
        .childIdentity found.1.owner (.receiver found.2) := by
  induction methods with
  | nil => rfl
  | cons method methods ih =>
    have howner : method.owner ≠ [] := howners method List.mem_cons_self
    have hparent : Place.defect? (C := Option Invocation) Graph.ownerName (Graph.receiverName chain)
        (.parent (some method)) = none := by
      simp [Place.defect?, Graph.ownerName, howner]
    have hchildren : (method.invocations.map (Place.child (some method))).findSome?
        (Place.defect? Graph.ownerName (Graph.receiverName chain)) =
          ((method.invocations.map (method, ·)).findSome? chain.unresolved?).map fun found =>
            .childIdentity found.1.owner (.receiver found.2) := by
      rw [List.findSome?_map, List.findSome?_map, List.map_findSome?]
      congr 1
      funext i
      simp only [Function.comp_apply, Place.defect?, Chain.unresolved?, Graph.receiverName]
      cases hi : chain.resolve i with
      | error e => rfl
      | ok name => simp [Except.mapError, hchain.resolve_ne_nil hi]
    -- First the method, which is no defect, then its invocations, then the methods that are left.
    have hrest := ih fun m hm => howners m (List.mem_cons_of_mem _ hm)
    rw [List.map_cons, places_cons, List.cons_append, List.findSome?_cons, hparent, List.findSome?_append,
      hrest, Method.calls_cons, List.findSome?_append]
    show ((method.invocations.map (Place.child (some method))).findSome? _).or _ = _
    rw [hchildren, Option.map_or]

/-- **A visit of methods with owners answers with the first invocation that has no receiver, or else with a
    graph.** -/
theorem Graph.ofMethods_cases {methods : List Method} (howners : ∀ method ∈ methods, method.owner ≠ [])
    {chain : Chain} (hchain : chain.Plain) :
    (∃ found, (Method.calls methods).findSome? chain.unresolved? = some found ∧
        Graph.ofMethods (methods.map some) chain =
          .error (.childIdentity found.1.owner (.receiver found.2))) ∨
      ((Method.calls methods).findSome? chain.unresolved? = none ∧
        ∃ g, Graph.ofMethods (methods.map some) chain = .ok g) := by
  have hfirst := Graph.findSome?_defect_methods howners hchain
  rcases Graph.build_cases (fun m => (m.map Method.invocations).getD []) Graph.ownerName
      (Graph.receiverName chain) (methods.map some) with ⟨e, hdefect, herr⟩ | ⟨hnamed, g, hok, -⟩
  · rw [hdefect] at hfirst
    obtain ⟨found, hfound, rfl⟩ := Option.map_eq_some_iff.1 hfirst.symm
    exact Or.inl ⟨found, hfound, herr⟩
  · rw [(findSome?_defect_eq_none _ _ _).2 hnamed] at hfirst
    exact Or.inr ⟨Option.map_eq_none_iff.1 hfirst.symm, g, hok⟩

theorem Graph.ofMethods_eq_error_iff {methods : List Method}
    (howners : ∀ method ∈ methods, method.owner ≠ []) {chain : Chain} (hchain : chain.Plain)
    {e : ClassGraphError} :
    Graph.ofMethods (methods.map some) chain = .error e ↔
      ∃ found, (Method.calls methods).findSome? chain.unresolved? = some found ∧
        e = .childIdentity found.1.owner (.receiver found.2) := by
  rcases Graph.ofMethods_cases howners hchain with ⟨found, hfound, herr⟩ | ⟨hnone, g, hok⟩
  · rw [herr, hfound, Except.error.injEq]
    constructor
    · rintro rfl
      exact ⟨found, rfl, rfl⟩
    · rintro ⟨found', hfound', rfl⟩
      rw [Option.some.inj hfound']
  · rw [hok, hnone]
    exact ⟨nofun, nofun⟩

/-! ## 4. Both -/

theorem Matrix.build_unresolved {policy : Policy} (hpolicy : policy ≠ .reject) (types : List TypeDecl)
    (methods : List Method) (chain : Chain) (e : CouplingError) :
    Matrix.build (types.map some) (methods.map some) chain policy = .error e ↔
      ∃ found, (Method.calls methods).findSome? chain.unresolved? = some found ∧
        e = .unresolved found.1.label found.2 := by
  rw [Matrix.build_eq_error_iff, Policy.findSome?_defect hpolicy, Option.map_eq_some_iff]
  simp only [eq_comm]

/-- What does not reject fails exactly if some invocation has no receiver. -/
theorem Matrix.build_fails_iff {policy : Policy} (hpolicy : policy ≠ .reject) (types : List TypeDecl)
    (methods : List Method) (chain : Chain) :
    (∃ e, Matrix.build (types.map some) (methods.map some) chain policy = .error e) ↔
      ∃ found, (Method.calls methods).findSome? chain.unresolved? = some found := by
  simp only [Matrix.build_unresolved hpolicy, @exists_comm CouplingError, exists_and_left, exists_eq, and_true]

theorem Graph.ofMethods_fails_iff {methods : List Method}
    (howners : ∀ method ∈ methods, method.owner ≠ []) {chain : Chain} (hchain : chain.Plain) :
    (∃ e, Graph.ofMethods (methods.map some) chain = .error e) ↔
      ∃ found, (Method.calls methods).findSome? chain.unresolved? = some found := by
  simp only [Graph.ofMethods_eq_error_iff howners hchain, @exists_comm ClassGraphError, exists_and_left,
    exists_eq, and_true]

theorem exists_findSome? {α β : Type} {f : α → Option β} {l : List α} :
    (∃ b, l.findSome? f = some b) ↔ ∃ a ∈ l, (f a).isSome := by
  rw [← Option.isSome_iff_exists, List.isSome_findSome?, List.any_eq_true]

theorem Chain.isSome_unresolved? (chain : Chain) (call : Method × Option Invocation) :
    (chain.unresolved? call).isSome ↔ ∃ r, chain.resolve call.2 = .error r := by
  unfold Chain.unresolved?
  cases chain.resolve call.2 with
  | error r => simp
  | ok receiver => simp

theorem Policy.isSome_defect?_reject (chain : Chain) (declared : List Name)
    (call : Method × Option Invocation) :
    (Policy.reject.defect? chain declared call).isSome ↔
      (∃ r, chain.resolve call.2 = .error r) ∨
        ∃ receiver, chain.resolve call.2 = .ok receiver ∧
          (call.1.owner ∉ declared ∨ receiver ∉ declared) := by
  unfold Policy.defect? Policy.refusal?
  cases chain.resolve call.2 with
  | error r => simp
  | ok receiver =>
    by_cases howner : call.1.owner ∈ declared
    · by_cases hreceiver : receiver ∈ declared
      · simp [howner, hreceiver]
      · simp [howner, hreceiver]
    · simp [howner]

/-- **Graph and matrix fail on the same models and for the same reason.** The graph fails exactly if some
    invocation has no receiver, and then a dropping and a growing matrix fail too; all three errors are those of
    the first such invocation, under different headings. A rejecting matrix fails exactly if some invocation has
    no receiver or an end that is not declared, and its error is that of the first such invocation. -/
theorem Matrix.build_fails_with_graph (types : List TypeDecl) (methods : List Method) {chain : Chain}
    (hchain : chain.Plain) (howners : ∀ method ∈ methods, method.owner ≠ []) :
    let graph := Graph.ofMethods (methods.map some) chain
    let matrix := Matrix.build (types.map some) (methods.map some) chain
    let calls := Method.calls methods
    let declared := types.map TypeDecl.name
    ((∃ e, graph = .error e) ↔ ∃ call ∈ calls, ∃ r, chain.resolve call.2 = .error r) ∧
      ((∃ e, graph = .error e) ↔ ∃ e, matrix .drop = .error e) ∧
      ((∃ e, graph = .error e) ↔ ∃ e, matrix .grow = .error e) ∧
      (∀ e₁ e₂ e₃, graph = .error e₁ → matrix .drop = .error e₂ → matrix .grow = .error e₃ →
        ∃ method r, calls.findSome? chain.unresolved? = some (method, r) ∧
          r.failure.cause = .unresolvedReceiver ∧
          (ClassGraphError.failure e₁).Wraps r.failure ∧
          (CouplingError.failure e₂).Wraps r.failure ∧
          (CouplingError.failure e₃).Wraps r.failure) ∧
      ((∃ e, matrix .reject = .error e) ↔
        ∃ call ∈ calls, (∃ r, chain.resolve call.2 = .error r) ∨
          ∃ receiver, chain.resolve call.2 = .ok receiver ∧
            (call.1.owner ∉ declared ∨ receiver ∉ declared)) ∧
      (∀ e, matrix .reject = .error e ↔
        calls.findSome? (Policy.reject.defect? chain declared) = some e) := by
  intro graph matrix calls declared
  have hgraph := Graph.ofMethods_fails_iff howners hchain
  have hdrop : (∃ e, matrix .drop = .error e) ↔ _ := Matrix.build_fails_iff (by decide) types methods chain
  have hgrow : (∃ e, matrix .grow = .error e) ↔ _ := Matrix.build_fails_iff (by decide) types methods chain
  refine ⟨?_, hgraph.trans hdrop.symm, hgraph.trans hgrow.symm, ?_, ?_, fun e => Matrix.build_eq_error_iff⟩
  · refine hgraph.trans ?_
    rw [exists_findSome?]
    simp only [Chain.isSome_unresolved?]
    rfl
  · intro e₁ e₂ e₃ h₁ h₂ h₃
    obtain ⟨found, hfound, rfl⟩ := (Graph.ofMethods_eq_error_iff howners hchain).1 h₁
    obtain ⟨found₂, hfound₂, rfl⟩ := (Matrix.build_unresolved (by decide) types methods chain e₂).1 h₂
    obtain ⟨found₃, hfound₃, rfl⟩ := (Matrix.build_unresolved (by decide) types methods chain e₃).1 h₃
    obtain rfl : found = found₂ := Option.some.inj (hfound.symm.trans hfound₂)
    obtain rfl : found = found₃ := Option.some.inj (hfound.symm.trans hfound₃)
    refine ⟨found.1, found.2, hfound, rfl, ?_, Failure.wraps_within _ _, Failure.wraps_within _ _⟩
    exact (Failure.wraps_within _ _).within _
  · simp only [matrix, Matrix.build_eq_error_iff, exists_findSome?, Policy.isSome_defect?_reject]
    rfl

/-- A method that calls an undeclared type, then something without a receiver, then nothing at all: the graph
    and two of the matrices fail at the second invocation, the rejecting one at the first. -/
theorem Matrix.build_fails_with_graph_on_a_lost_receiver :
    let a : Name := [.char 'A']
    let z : Name := [.char 'Z']
    let method : Method :=
      { owner := a, invocations := [some (.into z), some { method := [.char 'f'] }, none] }
    let matrix := Matrix.build [some ⟨a, [some method]⟩] [some method] Chain.standard
    (∀ m ∈ [method], m.owner ≠ []) ∧
      (∃ e, Graph.ofMethods [some method] Chain.standard = .error e) ∧
      (∃ e, matrix .drop = .error e) ∧ (∃ e, matrix .grow = .error e) ∧
      matrix .reject = .error (.uncounted method.label (.outOfSet z)) := by
  intro a z method matrix
  have howners : ∀ m ∈ [method], m.owner ≠ [] := by decide
  obtain ⟨hgraph, hdrop, hgrow, -, -, hreject⟩ :=
    Matrix.build_fails_with_graph [⟨a, [some method]⟩] [method] Chain.plain_standard howners
  have hfails := hgraph.2 ⟨(method, none), by decide, .nullInvocation, rfl⟩
  exact ⟨howners, hfails, hdrop.1 hfails, hgrow.1 hfails, (hreject _).2 (by decide)⟩

end CallCoupling
