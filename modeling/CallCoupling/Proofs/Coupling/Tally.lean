import CallCoupling.Proofs.Coupling.Matrix

/-!
# A matrix counts the call sites of a model

The call sites of some methods are the pairs of owner and receiver of all their invocations, in order
(`Chain.callSites`). This file says of the matrix that `Matrix.build` returns that it is a function of the
declared labels, the policy and that list of pairs, and which function:

* the cell of two labels holds the number of times that their pair occurs, under *every* policy;
* the labels are the declared ones, followed, if the policy is to grow, by those that the pairs bring in,
  the owner of a pair before its receiver;
* what is dropped is what has an end outside the declared labels, counted by pairs and not by ends.

`Matrix.Tallies` puts these together, and `Matrix.Tallies.record` is the one step that preserves it. The three
loops of the count (over invocations, over methods, over types) only string such steps together.
-/

set_option autoImplicit false

namespace CallCoupling

/-- Owner and receiver of an invocation, if the chain finds a receiver. -/
def Method.site? (chain : Chain) (method : Method) (i : Option Invocation) : Option (Name × Name) :=
  (chain.resolve i).toOption.map fun receiver => (method.owner, receiver)

/-- Owner and receiver of every invocation, in the order of the methods. -/
def Chain.callSites (chain : Chain) (methods : List Method) : List (Name × Name) :=
  methods.flatMap fun method => method.invocations.filterMap (method.site? chain)

theorem Chain.mem_callSites {chain : Chain} {methods : List Method} {site : Name × Name} :
    site ∈ chain.callSites methods ↔
      ∃ method ∈ methods, method.owner = site.1 ∧ ∃ i ∈ method.invocations, chain.resolve i = .ok site.2 := by
  obtain ⟨a, b⟩ := site
  have hsite : ∀ (method : Method) (i : Option Invocation),
      method.site? chain i = some (a, b) ↔ method.owner = a ∧ chain.resolve i = .ok b := by
    intro method i
    unfold Method.site?
    cases chain.resolve i with
    | error e => simp [Except.toOption]
    | ok receiver => simp [Except.toOption]
  simp only [Chain.callSites, List.mem_flatMap, List.mem_filterMap, hsite]
  constructor
  · rintro ⟨method, hmethod, i, hi, howner, hreceiver⟩
    exact ⟨method, hmethod, howner, i, hi, hreceiver⟩
  · rintro ⟨method, hmethod, howner, i, hi, hreceiver⟩
    exact ⟨method, hmethod, i, hi, howner, hreceiver⟩

/-- Every invocation has a receiver, so that no call site is missing from `Chain.callSites`. -/
def Chain.ResolvesAll (chain : Chain) (methods : List Method) : Prop :=
  ∀ method ∈ methods, ∀ i ∈ method.invocations, ∃ receiver, chain.resolve i = .ok receiver

/-- The labels after some call sites, starting from the declared ones. -/
def Policy.labels (policy : Policy) (declared : List Name) (sites : List (Name × Name)) : List Name :=
  match policy with
  | .grow => (declared ++ sites.flatMap fun site => [site.1, site.2]).eraseDups
  | .drop | .reject => declared

/-- The number of call sites that are dropped. -/
def Policy.dropped (policy : Policy) (declared : List Name) (sites : List (Name × Name)) : Nat :=
  match policy with
  | .drop => sites.countP fun site => site.1 ∉ declared ∨ site.2 ∉ declared
  | .grow | .reject => 0

/-- **The matrix is the tally of some call sites** over the declared labels. -/
structure Matrix.Tallies (m : Matrix) (policy : Policy) (declared : List Name)
    (sites : List (Name × Name)) : Prop where
  counts : m.Shows fun a b => sites.count (a, b)
  labels : m.labels = policy.labels declared sites
  dropped : m.dropped = policy.dropped declared sites
  /-- A rejecting count gets past a call site only if both ends are declared. -/
  closed : policy = .reject → ∀ site ∈ sites, site.1 ∈ declared ∧ site.2 ∈ declared

/-! ## 1. One call site -/

theorem Policy.labels_grow_concat (declared : List Name) (sites : List (Name × Name)) (a b : Name) :
    Policy.grow.labels declared (sites ++ [(a, b)]) =
      enter (enter (Policy.grow.labels declared sites) a) b := by
  show (declared ++ (sites ++ [(a, b)]).flatMap fun site => [site.1, site.2]).eraseDups = _
  rw [List.flatMap_append, List.flatMap_singleton, ← List.append_assoc,
    show [a, b] = [a] ++ [b] from rfl, ← List.append_assoc, eraseDups_concat, eraseDups_concat]
  rfl

/-- Under growth the labels are the declared ones and the ends of call sites. -/
theorem Policy.mem_labels_grow {declared : List Name} {sites : List (Name × Name)} {l : Name} :
    l ∈ Policy.grow.labels declared sites ↔ l ∈ declared ∨ ∃ x, (l, x) ∈ sites ∨ (x, l) ∈ sites := by
  show l ∈ (declared ++ sites.flatMap fun site => [site.1, site.2]).eraseDups ↔ _
  rw [List.mem_eraseDups, List.mem_append, List.mem_flatMap]
  constructor
  · rintro (hl | ⟨⟨a, b⟩, hsite, hl⟩)
    · exact Or.inl hl
    · rcases List.mem_pair.mp hl with rfl | rfl
      · exact Or.inr ⟨b, Or.inl hsite⟩
      · exact Or.inr ⟨a, Or.inr hsite⟩
  · rintro (hl | ⟨x, hsite | hsite⟩)
    · exact Or.inl hl
    · exact Or.inr ⟨(l, x), hsite, List.mem_pair.mpr (Or.inl rfl)⟩
    · exact Or.inr ⟨(x, l), hsite, List.mem_pair.mpr (Or.inr rfl)⟩

theorem Policy.count_eq_zero_of_not_mem {declared : List Name} {sites : List (Name × Name)} {l : Name}
    (hl : l ∉ Policy.grow.labels declared sites) (x : Name) :
    sites.count (x, l) = 0 ∧ sites.count (l, x) = 0 := by
  constructor
  · exact List.count_eq_zero.mpr fun hmem => hl (Policy.mem_labels_grow.mpr (Or.inr ⟨x, Or.inr hmem⟩))
  · exact List.count_eq_zero.mpr fun hmem => hl (Policy.mem_labels_grow.mpr (Or.inr ⟨x, Or.inl hmem⟩))

theorem count_concat (sites : List (Name × Name)) (a b x y : Name) :
    (sites ++ [(a, b)]).count (x, y) = sites.count (x, y) + if x = a ∧ y = b then 1 else 0 := by
  have hpair : ((a, b) == (x, y)) = decide (x = a ∧ y = b) := by
    rw [Bool.eq_iff_iff, beq_iff_eq, decide_eq_true_iff, Prod.mk.injEq, eq_comm, @eq_comm _ b]
  rw [List.count_append, List.count_singleton, hpair]
  simp only [decide_eq_true_eq]

theorem plusOne_count (sites : List (Name × Name)) (a b : Name) :
    plusOne (fun x y => sites.count (x, y)) a b = fun x y => (sites ++ [(a, b)]).count (x, y) := by
  funext x y
  rw [plusOne_apply, count_concat]

/-- **One recorded call site is one more in the tally**, whichever way the policy takes. -/
theorem Matrix.Tallies.record {m m' : Matrix} {policy : Policy} {declared : List Name}
    {sites : List (Name × Name)} {a b : Name} (hm : m.Tallies policy declared sites)
    (hrecord : m.record policy a b = .ok m') :
    m'.Tallies policy declared (sites ++ [(a, b)]) := by
  cases policy with
  | grow =>
    -- What makes growing safe: a name that is no label yet has not come up in any pair.
    have hzero : ∀ l ∉ m.labels, ∀ x, sites.count (x, l) = 0 ∧ sites.count (l, x) = 0 := by
      intro l hl
      exact Policy.count_eq_zero_of_not_mem (hm.labels ▸ hl)
    obtain ⟨m'', hok, hshows, hlabels, hdropped⟩ := hm.counts.record_grow a b hzero
    rw [hok] at hrecord
    cases hrecord
    refine ⟨plusOne_count sites a b ▸ hshows, ?_, hdropped.trans hm.dropped, nofun⟩
    rw [hlabels, hm.labels, Policy.labels_grow_concat]
  | reject =>
    have hlabels : m.labels = declared := hm.labels
    by_cases hin : a ∈ m.labels ∧ b ∈ m.labels
    · obtain ⟨m'', hok, hshows, hlabels', hdropped⟩ := hm.counts.record_known .reject hin.1 hin.2
      rw [hok] at hrecord
      cases hrecord
      refine ⟨plusOne_count sites a b ▸ hshows, hlabels'.trans hlabels, hdropped.trans hm.dropped, ?_⟩
      intro _ site hsite
      rcases List.mem_append.mp hsite with hsite | hsite
      · exact hm.closed rfl site hsite
      · rw [List.mem_singleton.mp hsite, ← hlabels]
        exact hin
    · rw [hm.counts.record_reject hin] at hrecord
      cases hrecord
  | drop =>
    have hlabels : m.labels = declared := hm.labels
    have hdrop : m.dropped = sites.countP fun site => site.1 ∉ declared ∨ site.2 ∉ declared := hm.dropped
    by_cases hin : a ∈ m.labels ∧ b ∈ m.labels
    · obtain ⟨m'', hok, hshows, hlabels', hdropped⟩ := hm.counts.record_known .drop hin.1 hin.2
      rw [hok] at hrecord
      cases hrecord
      refine ⟨plusOne_count sites a b ▸ hshows, hlabels'.trans hlabels, ?_, nofun⟩
      rw [hlabels] at hin
      rw [hdropped, hdrop]
      simp [Policy.dropped, hin]
    · rw [hm.counts.record_drop hin] at hrecord
      cases hrecord
      refine ⟨?_, hlabels, ?_, nofun⟩
      · -- The new pair is no pair of labels, so the table is right as it is.
        refine Matrix.Shows.congr (f := fun x y => sites.count (x, y)) ⟨hm.counts.indexed, hm.counts.counts⟩ ?_
        intro x hx y hy
        have hne : ¬ (x = a ∧ y = b) := by
          rintro ⟨rfl, rfl⟩
          exact hin ⟨hx, hy⟩
        rw [count_concat, if_neg hne, Nat.add_zero]
      · rw [hlabels] at hin
        show m.dropped + 1 = _
        have hout : a ∉ declared ∨ b ∉ declared := not_and_or.mp hin
        rw [hdrop]
        simp [Policy.dropped, hout]

/-! ## 2. All call sites -/

theorem Matrix.tallies_ofLabels (policy : Policy) (labels : List Name) :
    (Matrix.ofLabels labels).Tallies policy labels.eraseDups [] where
  counts := Matrix.shows_ofLabels labels
  labels := by
    have hlabels : (Matrix.ofLabels labels).labels = labels.eraseDups := Matrix.labels_ofLabels labels
    have hnodup : labels.eraseDups.Nodup := hlabels ▸ (Matrix.shows_ofLabels labels).indexed.nodup
    rw [hlabels]
    cases policy with
    | grow =>
      show _ = (labels.eraseDups ++ []).eraseDups
      rw [List.append_nil, eraseDups_of_nodup hnodup]
    | drop => rfl
    | reject => rfl
  dropped := by
    have hnone : (Matrix.ofLabels labels).dropped = 0 := Matrix.dropped_ofLabels labels
    rw [hnone]
    cases policy <;> rfl
  closed := by
    intro _ site hsite
    cases hsite

theorem Matrix.Tallies.countInvocations {policy : Policy} {declared : List Name} (chain : Chain)
    (method : Method) : ∀ (is : List (Option Invocation)) {m m' : Matrix} {sites : List (Name × Name)},
      m.Tallies policy declared sites →
      Matrix.countInvocations chain policy method is m = .ok m' →
      (∀ i ∈ is, ∃ receiver, chain.resolve i = .ok receiver) ∧
        m'.Tallies policy declared (sites ++ is.filterMap (method.site? chain)) := by
  intro is
  induction is with
  | nil =>
    intro m m' sites hm hcount
    cases hcount
    refine ⟨nofun, ?_⟩
    rw [List.filterMap_nil, List.append_nil]
    exact hm
  | cons i is ih =>
    intro m m' sites hm hcount
    unfold Matrix.countInvocations Matrix.countInvocation at hcount
    cases hi : chain.resolve i with
    | error e =>
      rw [hi] at hcount
      cases hcount
    | ok receiver =>
      rw [hi] at hcount
      cases hrecord : m.record policy method.owner receiver with
      | error e =>
        simp only [hrecord, Except.mapError] at hcount
        cases hcount
      | ok m₁ =>
        simp only [hrecord, Except.mapError] at hcount
        obtain ⟨hall, hm'⟩ := ih (hm.record hrecord) hcount
        constructor
        · intro j hj
          rcases List.mem_cons.mp hj with rfl | hj
          · exact ⟨receiver, hi⟩
          · exact hall j hj
        · have hsite : method.site? chain i = some (method.owner, receiver) := by
            simp [Method.site?, hi, Except.toOption]
          rw [List.filterMap_cons, hsite]
          rw [List.append_assoc, List.singleton_append] at hm'
          exact hm'

theorem Matrix.Tallies.countMethods {policy : Policy} {declared : List Name} (chain : Chain) :
    ∀ (methods : List Method) {m m' : Matrix} {sites : List (Name × Name)},
      m.Tallies policy declared sites →
      Matrix.countMethods chain policy (methods.map some) m = .ok m' →
      chain.ResolvesAll methods ∧ m'.Tallies policy declared (sites ++ chain.callSites methods) := by
  intro methods
  induction methods with
  | nil =>
    intro m m' sites hm hcount
    cases hcount
    refine ⟨nofun, ?_⟩
    show m.Tallies policy declared (sites ++ [])
    rw [List.append_nil]
    exact hm
  | cons method methods ih =>
    intro m m' sites hm hcount
    rw [List.map_cons] at hcount
    unfold Matrix.countMethods at hcount
    cases hfirst : Matrix.countInvocations chain policy method method.invocations m with
    | error e =>
      simp only [hfirst] at hcount
      cases hcount
    | ok m₁ =>
      simp only [hfirst] at hcount
      obtain ⟨hinvocations, hm₁⟩ := hm.countInvocations chain method method.invocations hfirst
      obtain ⟨hmethods, hm'⟩ := ih hm₁ hcount
      constructor
      · intro method' hmethod'
        rcases List.mem_cons.mp hmethod' with rfl | hmethod'
        · exact hinvocations
        · exact hmethods method' hmethod'
      · rw [List.append_assoc] at hm'
        exact hm'

/-- A list of types without null entries declares the names of its types. -/
theorem Matrix.declaredLabels_eq_some : ∀ {types : List (Option TypeDecl)} {labels : List Name},
    Matrix.declaredLabels types = some labels →
      labels = types.filterMap fun t => t.map TypeDecl.name := by
  intro types
  induction types with
  | nil =>
    intro labels hlabels
    cases hlabels
    rfl
  | cons t types ih =>
    intro labels hlabels
    cases t with
    | none => cases hlabels
    | some t =>
      obtain ⟨rest, hrest, rfl⟩ := Option.map_eq_some_iff.mp hlabels
      rw [ih hrest]
      rfl

theorem Matrix.declaredLabels_map_some (types : List TypeDecl) :
    Matrix.declaredLabels (types.map some) = some (types.map TypeDecl.name) := by
  induction types with
  | nil => rfl
  | cons t types ih => rw [List.map_cons, Matrix.declaredLabels, ih]; rfl

/-- **A matrix that is built is the tally of all call sites**, and no invocation was passed over. -/
theorem Matrix.tallies_of_build {types : List (Option TypeDecl)} {methods : List Method} {chain : Chain}
    {policy : Policy} {m : Matrix}
    (hm : Matrix.build types (methods.map some) chain policy = .ok m) :
    chain.ResolvesAll methods ∧
      m.Tallies policy (types.filterMap fun t => t.map TypeDecl.name).eraseDups
        (chain.callSites methods) := by
  unfold Matrix.build at hm
  cases hlabels : Matrix.declaredLabels types with
  | none =>
    rw [hlabels] at hm
    cases hm
  | some labels =>
    rw [hlabels] at hm
    rw [← Matrix.declaredLabels_eq_some hlabels]
    exact (Matrix.tallies_ofLabels policy labels).countMethods chain methods hm

/-! ## 3. Counts by policy -/

theorem Matrix.Tallies.count_declared {m : Matrix} {policy : Policy} {declared : List Name}
    {sites : List (Name × Name)} (hm : m.Tallies policy declared sites) (hlabels : m.labels = declared)
    (a b : Name) :
    m.count a b = if a ∈ declared ∧ b ∈ declared then sites.count (a, b) else 0 := by
  rw [hm.counts.count, hlabels]

/-- Where every end of a call site is a label, the count of any two names is the number of occurrences. -/
theorem Matrix.Shows.count_of_closed {m : Matrix} {sites : List (Name × Name)}
    (hm : m.Shows fun a b => sites.count (a, b))
    (hclosed : ∀ site ∈ sites, site.1 ∈ m.labels ∧ site.2 ∈ m.labels) (a b : Name) :
    m.count a b = sites.count (a, b) := by
  rw [hm.count]
  split
  · rfl
  · rename_i hout
    exact (List.count_eq_zero.mpr fun hmem => hout (hclosed (a, b) hmem)).symm

theorem count_eq_countP_filter (sites : List (Name × Name)) (a b : Name) :
    sites.count (a, b) = (sites.filter fun site => site.2 = b).countP fun site => site.1 = a := by
  rw [List.count_eq_countP, List.countP_filter]
  apply List.countP_congr
  intro site _
  simp [Prod.ext_iff]

/-- The total is the number of call sites between labels. -/
theorem Matrix.Shows.total_eq_countP {m : Matrix} {sites : List (Name × Name)}
    (hm : m.Shows fun a b => sites.count (a, b)) :
    m.total = sites.countP fun site => site.1 ∈ m.labels ∧ site.2 ∈ m.labels := by
  have hnd : m.labels.Nodup := hm.indexed.nodup
  -- One row first: the sites out of `a` whose target is a label.
  have hrow : ∀ a, (m.labels.map fun b => sites.count (a, b)).sum =
      (sites.filter fun site => site.2 ∈ m.labels).countP fun site => site.1 = a := by
    intro a
    have hcell : (fun b => sites.count (a, b)) =
        fun b => (sites.filter fun site => site.1 = a).countP fun site => site.2 = b := by
      funext b
      rw [count_eq_countP_filter, List.countP_filter, List.countP_filter]
      simp [Bool.and_comm]
    rw [hcell, sum_countP hnd Prod.snd, List.countP_filter, List.countP_filter]
    simp [Bool.and_comm]
  rw [hm.total]
  simp only [hrow]
  rw [sum_countP hnd Prod.fst, List.countP_filter]
  simp

theorem Matrix.Tallies.count_of_closed {m : Matrix} {policy : Policy} {declared : List Name}
    {sites : List (Name × Name)} (hm : m.Tallies policy declared sites)
    (hclosed : ∀ site ∈ sites, site.1 ∈ m.labels ∧ site.2 ∈ m.labels) (a b : Name) :
    m.count a b = sites.count (a, b) := hm.counts.count_of_closed hclosed a b

theorem Matrix.Tallies.closed_grow {m : Matrix} {declared : List Name} {sites : List (Name × Name)}
    (hm : m.Tallies .grow declared sites) :
    ∀ site ∈ sites, site.1 ∈ m.labels ∧ site.2 ∈ m.labels := by
  rintro ⟨a, b⟩ hsite
  rw [hm.labels]
  exact ⟨Policy.mem_labels_grow.mpr (Or.inr ⟨b, Or.inl hsite⟩),
    Policy.mem_labels_grow.mpr (Or.inr ⟨a, Or.inr hsite⟩)⟩

theorem Policy.named_drop {s : String} (hgrow : s ≠ "grow") (hreject : s ≠ "reject") :
    Policy.named s = .drop := by
  rw [Policy.named, if_neg hgrow, if_neg hreject]

/-- **Building a matrix counts exactly the call sites of the model, under every policy.** The policy is given
    by its name, and any name but two means dropping. -/
theorem Matrix.build_counts (types : List TypeDecl) (methods : List Method) (chain : Chain)
    (policy : String) {m : Matrix}
    (hm : Matrix.build (types.map some) (methods.map some) chain (Policy.named policy) = .ok m) :
    let declared := (types.map TypeDecl.name).eraseDups
    let sites := chain.callSites methods
    chain.ResolvesAll methods ∧
      (policy = "grow" →
        m.labels = (declared ++ sites.flatMap fun site => [site.1, site.2]).eraseDups ∧
          (∀ a b, m.count a b = sites.count (a, b)) ∧ m.dropped = 0) ∧
      (policy = "reject" →
        m.labels = declared ∧ (∀ site ∈ sites, site.1 ∈ declared ∧ site.2 ∈ declared) ∧
          (∀ a b, m.count a b = sites.count (a, b)) ∧ m.dropped = 0) ∧
      (policy ≠ "grow" → policy ≠ "reject" →
        m.labels = declared ∧
          (∀ a b, m.count a b = if a ∈ declared ∧ b ∈ declared then sites.count (a, b) else 0) ∧
          m.dropped = sites.countP fun site => site.1 ∉ declared ∨ site.2 ∉ declared) := by
  intro declared sites
  obtain ⟨hresolves, htally⟩ := Matrix.tallies_of_build hm
  have hdeclared : ((types.map some).filterMap fun t => t.map TypeDecl.name) =
      types.map TypeDecl.name := by
    simp [List.filterMap_map]
  rw [hdeclared] at htally
  refine ⟨hresolves, ?_, ?_, ?_⟩
  · rintro rfl
    have hgrow : m.Tallies .grow declared sites := htally
    exact ⟨hgrow.labels, hgrow.count_of_closed hgrow.closed_grow, hgrow.dropped⟩
  · rintro rfl
    have hreject : m.Tallies .reject declared sites := htally
    have hlabels : m.labels = declared := hreject.labels
    have hclosed := hreject.closed rfl
    exact ⟨hlabels, hclosed, hreject.count_of_closed (hlabels.symm ▸ hclosed), hreject.dropped⟩
  · intro hgrow hreject
    rw [Policy.named_drop hgrow hreject] at htally
    have hlabels : m.labels = declared := htally.labels
    exact ⟨hlabels, htally.count_declared hlabels, htally.dropped⟩

/-- An invocation whose receiver has the given static type. -/
def Invocation.into (receiver : Name) : Invocation :=
  { receiver := { declared := some { name := receiver } } }

/-- Two declared types, one of them twice, and two methods, under a chain with a third channel that always has an
    answer: one method calls a declared type once and twice what names no type, the other has an owner that is not
    declared. -/
theorem Matrix.build_counts_grow :
    let x : Name := [.char 'X']
    let y : Name := [.char 'Y']
    let s : Name := [.char 'S']
    let z : Name := [.char 'Z']
    let chain : Chain := Chain.standard ++ [⟨"fixed", fun _ => some s⟩]
    let types : List TypeDecl := [⟨x, []⟩, ⟨y, []⟩, ⟨x, []⟩]
    let methods : List Method :=
      [{ owner := x, invocations := [some {}, some (.into y), some {}] },
        { owner := z, invocations := [some (.into x)] }]
    ∃ m, Matrix.build (types.map some) (methods.map some) chain (Policy.named "grow") = .ok m ∧
      m.labels = [x, y, s, z] ∧ m.count x s = 2 ∧ m.count z x = 1 ∧ m.count x x = 0 ∧ m.dropped = 0 := by
  intro x y s z chain types methods
  obtain ⟨m, hm⟩ : ∃ m, Matrix.build (types.map some) (methods.map some) chain (Policy.named "grow") = .ok m :=
    ⟨_, rfl⟩
  obtain ⟨-, hgrow, -, -⟩ := Matrix.build_counts types methods chain "grow" hm
  obtain ⟨hlabels, hcount, hdropped⟩ := hgrow rfl
  refine ⟨m, hm, hlabels.trans ?_, (hcount x s).trans ?_, (hcount z x).trans ?_, (hcount x x).trans ?_,
    hdropped⟩
  all_goals decide

end CallCoupling
