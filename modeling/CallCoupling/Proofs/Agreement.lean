import CallCoupling.Proofs.Coupling.Tally
import CallCoupling.Proofs.Graph.Invariant
import CallCoupling.Proofs.Graph.Traversal

/-!
# Graph and matrix agree

A class call graph and a coupling matrix are made from the same methods by two counts that share nothing:
one keeps ids, links and a count per target, the other a square over labels of its own. Both come down to the
same list, the call sites of the model (`Chain.callSites`): the graph has a history with those calls, and the
matrix is their tally. So what one says is what the other says, link by link and target by target.

They do not have the same names, though. A method makes its owner a node of the graph even if it invokes
nothing, whereas a matrix takes in a name only to count with it. A type that is not declared and has no part
in any invocation is therefore a node without being a label, under *every* policy; what is proved here of
labels is the exact rule (`Matrix.build_agrees`, with `Chain.Idle` for such types), next to an instance of one.
-/

set_option autoImplicit false

namespace CallCoupling

/-- There is a link between the nodes of two names. -/
def Graph.Links (g : Graph) (a b : Name) : Prop :=
  ∃ i j : Nat, g.id? a = some i ∧ g.id? b = some j ∧ j ∈ g.calleesOf i

/-- The type has methods, but no invocation is made by one of them or made into it. -/
def Chain.Idle (chain : Chain) (methods : List Method) (a : Name) : Prop :=
  (∃ method ∈ methods, method.owner = a) ∧
    ∀ method ∈ methods, ∀ i ∈ method.invocations, method.owner ≠ a ∧ chain.resolve i ≠ .ok a

/-! ## 1. The graph has the call sites as its history -/

theorem Graph.Shows.links_iff {g : Graph} {h : History} (hg : g.Shows h.picture) (hs : h.Sound)
    {a b : Name} : g.Links a b ↔ (a, b) ∈ h.calls := by
  constructor
  · rintro ⟨i, j, hi, hj, hlink⟩
    exact (hg.mem_calleesOf_iff (hg.id?_eq_some.mp hi) (hg.id?_eq_some.mp hj)).mp hlink
  · intro hab
    -- Both ends have nodes: the caller as a caller, the target as the name of this very sighting.
    have hnode : ∀ c ∈ h.names, ∃ i : Nat, g.names[i]? = some c := by
      intro c hc
      refine List.mem_iff_getElem?.mp ?_
      rw [hg.names]
      exact List.mem_eraseDups.mpr hc
    obtain ⟨i, hi⟩ := hnode a (History.mem_names_of_mem_callers (hs.called _ hab))
    obtain ⟨j, hj⟩ := hnode b (History.mem_names_of_mem_calls hab)
    exact ⟨i, j, hg.id?_eq_some.mpr hi, hg.id?_eq_some.mpr hj, (hg.mem_calleesOf_iff hi hj).mpr hab⟩

/-- The calls that a visit of methods sees are their call sites, with the same repeats in the same order. -/
theorem calls_sightings_methods (methods : List Method) (chain : Chain) :
    (sightings (fun m => (m.map Method.invocations).getD []) Graph.ownerName
      (Graph.receiverName chain) (methods.map some)).calls = chain.callSites methods := by
  rw [History.calls, sightings, places, List.filterMap_filterMap, List.flatMap_map,
    List.filterMap_flatMap, Chain.callSites]
  congr 1
  funext method
  show List.filterMap _ (List.map (Place.child (some method)) method.invocations) = _
  rw [List.filterMap_map]
  congr 1
  funext i
  cases hi : chain.resolve i with
  | error e =>
    simp [Place.sighting?, Graph.ownerName, Graph.receiverName, Method.site?, hi, Except.toOption,
      Except.mapError]
  | ok receiver =>
    simp [Place.sighting?, Graph.ownerName, Graph.receiverName, Method.site?, hi, Except.toOption,
      Except.mapError, Sighting.call?]

/-- **The graph of some methods shows a history whose callers are their owners and whose calls are their call
    sites.** -/
theorem Graph.shows_of_ofMethods {methods : List Method} {chain : Chain} {g : Graph}
    (hok : Graph.ofMethods (methods.map some) chain = .ok g) :
    ∃ h : History, g.Shows h.picture ∧ h.Sound ∧ (∀ a, a ∈ h.callers ↔ ∃ method ∈ methods, method.owner = a) ∧
      h.calls = chain.callSites methods := by
  rcases Graph.build_cases (fun m => (m.map Method.invocations).getD []) Graph.ownerName
      (Graph.receiverName chain) (methods.map some) with ⟨e, -, herr⟩ | ⟨-, g', hok', hg, hs⟩
  · have herr' : Graph.ofMethods (methods.map some) chain = .error e := herr
    rw [hok] at herr'
    cases herr'
  · have hok'' : Graph.ofMethods (methods.map some) chain = .ok g' := hok'
    rw [hok] at hok''
    cases hok''
    refine ⟨_, hg, hs, fun a => ?_, calls_sightings_methods methods chain⟩
    rw [mem_callers_sightings]
    simp [Graph.ownerName]

/-- The nodes are the owners of methods and the targets of call sites. -/
theorem Graph.mem_names_of_ofMethods {methods : List Method} {chain : Chain} {g : Graph}
    (hok : Graph.ofMethods (methods.map some) chain = .ok g) {a : Name} :
    a ∈ g.names ↔
      (∃ method ∈ methods, method.owner = a) ∨ ∃ site ∈ chain.callSites methods, site.2 = a := by
  obtain ⟨h, hshows, -, hcallers, hcalls⟩ := Graph.shows_of_ofMethods hok
  have hnames : g.names = h.names.eraseDups := hshows.names
  rw [hnames, List.mem_eraseDups, History.mem_names_iff, hcallers, hcalls]

/-! ## 2. Columns and totals of the matrix -/

/-- A column of a matrix that holds all ends adds up to the call sites into its label. -/
theorem Matrix.Tallies.sum_column {m : Matrix} {policy : Policy} {declared : List Name}
    {sites : List (Name × Name)} (hm : m.Tallies policy declared sites)
    (hclosed : ∀ site ∈ sites, site.1 ∈ m.labels ∧ site.2 ∈ m.labels) (b : Name) :
    (m.labels.map fun a => m.count a b).sum = sites.countP fun site => site.2 = b := by
  have hcount : (fun a => m.count a b) =
      fun a => (sites.filter fun site => site.2 = b).countP fun site => site.1 = a := by
    funext a
    rw [hm.count_of_closed hclosed, count_eq_countP_filter]
  rw [hcount, sum_countP_eq_length hm.counts.indexed.nodup Prod.fst, List.countP_eq_length_filter]
  intro site hsite
  exact (hclosed site (List.mem_of_mem_filter hsite)).1

theorem Matrix.Tallies.total_eq {m : Matrix} {policy : Policy} {declared : List Name}
    {sites : List (Name × Name)} (hm : m.Tallies policy declared sites) :
    m.total = sites.countP fun site => site.1 ∈ m.labels ∧ site.2 ∈ m.labels := hm.counts.total_eq_countP

/-- **What a dropping count leaves out is what it drops**: every call site is in the total or in the drops, and
    in one of them only. -/
theorem Matrix.Tallies.total_add_dropped {m : Matrix} {declared : List Name}
    {sites : List (Name × Name)} (hm : m.Tallies .drop declared sites) :
    m.total + m.dropped = sites.length := by
  have hlabels : m.labels = declared := hm.labels
  have hdropped : m.dropped =
      sites.countP fun site => ¬ decide (site.1 ∈ declared ∧ site.2 ∈ declared) = true := by
    rw [hm.dropped]
    apply List.countP_congr
    intro site _
    simp
  rw [hm.total_eq, hlabels, hdropped]
  exact (List.length_eq_countP_add_countP _).symm

/-! ## 3. Agreement -/

theorem Matrix.Tallies.count_pos_iff {m : Matrix} {policy : Policy} {declared : List Name}
    {sites : List (Name × Name)} (hm : m.Tallies policy declared sites) {a b : Name}
    (ha : a ∈ m.labels) (hb : b ∈ m.labels) : 0 < m.count a b ↔ (a, b) ∈ sites := by
  rw [hm.counts.count, if_pos ⟨ha, hb⟩, List.count_pos_iff]

theorem mem_declared_iff {types : List (Option TypeDecl)} {a : Name} :
    a ∈ (types.filterMap fun t => t.map TypeDecl.name).eraseDups ↔
      ∃ t, some t ∈ types ∧ t.name = a := by
  rw [List.mem_eraseDups, List.mem_filterMap]
  constructor
  · rintro ⟨t, ht, hname⟩
    obtain ⟨decl, rfl, rfl⟩ := Option.map_eq_some_iff.mp hname
    exact ⟨decl, ht, rfl⟩
  · rintro ⟨decl, ht, rfl⟩
    exact ⟨some decl, ht, rfl⟩

/-- Where every invocation has a receiver, a type that is no end of a call site is idle if it has methods. -/
theorem Chain.idle_iff {chain : Chain} {methods : List Method} (hresolves : chain.ResolvesAll methods) {a : Name} :
    chain.Idle methods a ↔
      (∃ method ∈ methods, method.owner = a) ∧
        ∀ b, (a, b) ∉ chain.callSites methods ∧ (b, a) ∉ chain.callSites methods := by
  apply and_congr_right
  intro _
  constructor
  · intro hidle b
    constructor
    · intro hsite
      obtain ⟨method, hmethod, howner, i, hi, -⟩ := Chain.mem_callSites.1 hsite
      exact (hidle method hmethod i hi).1 howner
    · intro hsite
      obtain ⟨method, hmethod, -, i, hi, hreceiver⟩ := Chain.mem_callSites.1 hsite
      exact (hidle method hmethod i hi).2 hreceiver
  · intro hfree method hmethod i hi
    constructor
    · intro howner
      -- The invocation has some receiver, so it is a call site out of the type.
      obtain ⟨b, hreceiver⟩ := hresolves method hmethod i hi
      exact (hfree b).1 (Chain.mem_callSites.2 ⟨method, hmethod, howner, i, hi, hreceiver⟩)
    · intro hreceiver
      exact (hfree method.owner).2 (Chain.mem_callSites.2 ⟨method, hmethod, rfl, i, hi, hreceiver⟩)

/-- **The nodes that a growing matrix has no label for are the idle types that are not declared.** -/
theorem Matrix.Tallies.stranger_iff {types : List (Option TypeDecl)} {methods : List Method} {chain : Chain}
    {g : Graph} {m : Matrix} (hg : Graph.ofMethods (methods.map some) chain = .ok g)
    (hresolves : chain.ResolvesAll methods)
    (hm : m.Tallies .grow (types.filterMap fun t => t.map TypeDecl.name).eraseDups (chain.callSites methods))
    (a : Name) :
    (a ∈ g.names ∧ a ∉ m.labels) ↔ (∀ t, some t ∈ types → t.name ≠ a) ∧ chain.Idle methods a := by
  rw [Graph.mem_names_of_ofMethods hg, hm.labels, Policy.mem_labels_grow, mem_declared_iff,
    Chain.idle_iff hresolves]
  constructor
  · rintro ⟨hnode, hstranger⟩
    refine ⟨fun t ht hname => hstranger (Or.inl ⟨t, ht, hname⟩), ?_, fun b => ⟨?_, ?_⟩⟩
    · -- A node that is the target of a call site would have a label.
      rcases hnode with howner | ⟨⟨b, c⟩, hsite, rfl⟩
      · exact howner
      · exact absurd (Or.inr ⟨b, Or.inr hsite⟩) hstranger
    · intro hsite
      exact hstranger (Or.inr ⟨b, Or.inl hsite⟩)
    · intro hsite
      exact hstranger (Or.inr ⟨b, Or.inr hsite⟩)
  · rintro ⟨hundeclared, howner, hfree⟩
    refine ⟨Or.inl howner, ?_⟩
    rintro (⟨t, ht, hname⟩ | ⟨b, hsite | hsite⟩)
    · exact hundeclared t ht hname
    · exact (hfree b).1 hsite
    · exact (hfree b).2 hsite

/-- **The graph and the matrix of a model agree.** If the matrix grows, its labels are the declared types and
    the ends of links, so the nodes that are no labels are the idle types that are not declared; it counts a pair
    exactly if the graph has the link, and a column adds up to the call sites into the column's node. If it drops,
    the same holds of counts and links between labels, and the drops are what its total lacks of the graph's. -/
theorem Matrix.build_agrees (types : List (Option TypeDecl)) (methods : List Method) (chain : Chain)
    (policy : String) {g : Graph} {m : Matrix}
    (hg : Graph.ofMethods (methods.map some) chain = .ok g)
    (hm : Matrix.build types (methods.map some) chain (Policy.named policy) = .ok m) :
    (policy = "grow" →
      (∀ a, a ∈ m.labels ↔
        (∃ t, some t ∈ types ∧ t.name = a) ∨ ∃ b, g.Links a b ∨ g.Links b a) ∧
      (∀ a, (a ∈ g.names ∧ a ∉ m.labels) ↔ (∀ t, some t ∈ types → t.name ≠ a) ∧ chain.Idle methods a) ∧
      (∀ a b, 0 < m.count a b ↔ g.Links a b) ∧
      ∀ (b : Name) (j : Nat), g.id? b = some j →
        g.multiplicityOf j = (m.labels.map fun a => m.count a b).sum) ∧
    (policy ≠ "grow" → policy ≠ "reject" →
      (∀ a ∈ m.labels, ∀ b ∈ m.labels, 0 < m.count a b ↔ g.Links a b) ∧
      (g.multiplicity.sum : Int) - m.total = m.dropped) := by
  obtain ⟨h, hshows, hsound, -, hcalls⟩ := Graph.shows_of_ofMethods hg
  obtain ⟨hresolves, htally⟩ := Matrix.tallies_of_build hm
  have hlinks : ∀ a b, g.Links a b ↔ (a, b) ∈ chain.callSites methods := by
    intro a b
    rw [hshows.links_iff hsound, hcalls]
  constructor
  · rintro rfl
    have hgrow : m.Tallies .grow _ (chain.callSites methods) := htally
    refine ⟨?_, hgrow.stranger_iff hg hresolves, ?_, ?_⟩
    · intro a
      rw [hgrow.labels, Policy.mem_labels_grow, mem_declared_iff]
      simp only [hlinks]
    · intro a b
      rw [hgrow.count_of_closed hgrow.closed_grow, List.count_pos_iff, hlinks]
    · intro b j hj
      rw [hgrow.sum_column hgrow.closed_grow, hshows.multiplicityOf (hshows.id?_eq_some.mp hj)]
      show h.callsTo b = _
      rw [History.callsTo, hcalls]
  · intro hnotgrow hnotreject
    rw [Policy.named_drop hnotgrow hnotreject] at htally
    constructor
    · intro a ha b hb
      rw [htally.count_pos_iff ha hb, hlinks]
    · have htotal : m.total + m.dropped = g.multiplicity.sum := by
        rw [htally.total_add_dropped, hshows.sum_multiplicity, hcalls]
      omega

/-- Where a method of one type calls another type twice and itself once, the column of the called type adds up
    to two on both sides, and dropping, with the called type not declared, drops two. -/
theorem Matrix.build_agrees_on_library_calls :
    let x : Name := [.char 'X']
    let s : Name := [.char 'S']
    let method : Method := { owner := x, invocations := [.into s, .into x, .into s].map some }
    ∃ g m m', Graph.ofMethods ([method].map some) Chain.standard = .ok g ∧
      Matrix.build [some ⟨x, [some method]⟩] ([method].map some) Chain.standard (Policy.named "grow") =
        .ok m ∧
      Matrix.build [some ⟨x, [some method]⟩] ([method].map some) Chain.standard (Policy.named "") =
        .ok m' ∧
      g.Links x s ∧ g.multiplicityOf 1 = (m.labels.map fun a => m.count a s).sum ∧
      (g.multiplicity.sum : Int) - m'.total = m'.dropped ∧ m'.dropped = 2 := by
  intro x s method
  refine ⟨_, _, _, rfl, rfl, rfl, ?_⟩
  obtain ⟨hgrow, -⟩ := Matrix.build_agrees [some ⟨x, [some method]⟩] [method] Chain.standard "grow" rfl rfl
  obtain ⟨-, hdrop⟩ := Matrix.build_agrees [some ⟨x, [some method]⟩] [method] Chain.standard "" rfl rfl
  obtain ⟨-, -, hcount, hcolumn⟩ := hgrow rfl
  obtain ⟨-, htotal⟩ := hdrop (by decide) (by decide)
  exact ⟨(hcount x s).mp (by decide), hcolumn s 1 rfl, htotal, rfl⟩

/-- A type that is not declared and has a method without invocations is a node and no label, also if the
    matrix grows. -/
theorem Graph.idle_owner_is_no_label :
    let idle : Method := { name := [.char 'm'], owner := [.char 'X'] }
    ∃ g m, Graph.ofMethods ([idle].map some) Chain.standard = .ok g ∧
      Matrix.build [some ⟨[.char 'A'], [some idle]⟩] ([idle].map some) Chain.standard
        (Policy.named "grow") = .ok m ∧
      g.names = [[.char 'X']] ∧ m.labels = [[.char 'A']] ∧ ¬ ∀ a ∈ g.names, a ∈ m.labels := by
  intro idle
  exact ⟨_, _, rfl, rfl, rfl, rfl, by decide⟩

end CallCoupling
