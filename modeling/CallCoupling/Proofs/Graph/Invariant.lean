import CallCoupling.Proofs.Graph.History

/-!
# The invariant of a graph under construction

`Graph.Valid` is what a reader of a graph may rely on, said with the readers alone: names and ids determine
each other, no table is longer or shorter than another, what is part of the project is what has been added
as a caller, and the count of call sites into a node is never less than the number of nodes that link to it.

`Graph.run_valid` says that no run of steps leaves this invariant, whatever the names and ids it is called
with and however many of its steps fail. Nothing here looks at a step: a reachable graph shows the picture
of some history (`Graph.Shows.run`), and each clause is read off that history.
-/

set_option autoImplicit false

namespace CallCoupling

/-- **The tables of a graph are in step.** Ids are integers here, as the readers take them, so each clause
    also says what is answered outside the tables. -/
structure Graph.Valid (g : Graph) : Prop where
  names_nonempty : ∀ a ∈ g.names, a ≠ []
  names_distinct : g.names.Nodup
  id?_eq_some_iff : ∀ (a : Name) (i : Int),
    (g.id? a).map Int.ofNat = some i ↔ 0 ≤ i ∧ i < g.size ∧ g.nameOf i = a
  membership_length : g.membership.length = g.size
  multiplicity_length : g.multiplicity.length = g.size
  seen : ∀ i : Int, 0 ≤ i → i < g.size → g.stateOf i ≠ .unseen
  owns_iff : ∀ i : Int, g.owns i = true ↔ ∃ c ∈ g.callers, (c : Int) = i
  callees_lt : ∀ i : Int, ∀ t ∈ g.calleesOf i, t < g.size
  /-- A caller counts once, however often it calls. -/
  card_callers_le : ∀ t < g.size,
    (g.callers.toFinset.filter fun (c : Nat) => t ∈ g.calleesOf c).card ≤ g.multiplicityOf t
  multiplicity_eq_zero_iff : ∀ t < g.size,
    g.multiplicityOf t = 0 ↔ ∀ c ∈ g.callers, t ∉ g.calleesOf c

/-! ## 1. Reading a graph through its history -/

theorem Graph.getElem?_names_of_lt {g : Graph} {i : Nat} (hi : i < g.size) :
    ∃ a, g.names[i]? = some a := ⟨g.names[i], List.getElem?_eq_getElem hi⟩

theorem Graph.lt_size_of_getElem? {g : Graph} {i : Nat} {a : Name} (hi : g.names[i]? = some a) :
    i < g.size := (List.getElem?_eq_some_iff.mp hi).1

theorem Graph.Shows.stateOf_eq_confirmed {g : Graph} {h : History} (hg : g.Shows h.picture) (i : Nat) :
    g.stateOf i = .confirmed ↔ i ∈ g.callers := by
  rw [hg.mem_callers]
  cases hi : g.names[i]? with
  | none => simp [Graph.stateOf, hg.membership, hi]
  | some a =>
    rw [hg.stateOf hi]
    show h.stateOf a = .confirmed ↔ ∃ b, some a = some b ∧ b ∈ h.callers
    rw [History.stateOf]
    by_cases ha : a ∈ h.callers
    · simp [ha]
    · rw [if_neg ha]
      constructor
      · intro hstate
        split at hstate <;> cases hstate
      · rintro ⟨b, hab, hb⟩
        exact absurd (Option.some.inj hab ▸ hb) ha

theorem Graph.Shows.stateOf_ne_unseen {g : Graph} {h : History} (hg : g.Shows h.picture) {i : Nat}
    (hi : i < g.size) : g.stateOf i ≠ .unseen := by
  obtain ⟨a, ha⟩ := Graph.getElem?_names_of_lt hi
  have hname : a ∈ h.names := by
    have hmem : a ∈ g.names := List.mem_of_getElem? ha
    rw [hg.names] at hmem
    exact List.mem_eraseDups.mp hmem
  rw [hg.stateOf ha]
  show h.stateOf a ≠ .unseen
  rw [History.stateOf, if_pos hname]
  split
  · decide
  · decide

/-- A caller that links to `t` has made a call, and different callers have made different ones. -/
theorem Graph.Shows.card_callers_le {g : Graph} {h : History} (hg : g.Shows h.picture) {t : Nat}
    {b : Name} (ht : g.names[t]? = some b) :
    (g.callers.toFinset.filter fun (c : Nat) => t ∈ g.calleesOf c).card ≤ h.callsTo b := by
  have hcalls : h.callsTo b = (h.calls.filter fun call => call.2 = b).length :=
    List.countP_eq_length_filter
  rw [hcalls]
  refine Nat.le_trans ?_ (List.toFinset_card_le _)
  refine Finset.card_le_card_of_injOn (fun c => (g.nameOf c, b)) ?_ ?_
  · intro c hc
    obtain ⟨-, hlink⟩ := Finset.mem_filter.mp hc
    obtain ⟨a, b', ha, hb', hab⟩ := hg.mem_calleesOf.mp hlink
    have hbb : b' = b := Option.some.inj (hb'.symm.trans ht)
    subst hbb
    have hcall : (a, b') ∈ h.calls := hab
    simp [Graph.nameOf_of_getElem? ha, hcall]
  · intro c hc c' hc' heq
    obtain ⟨-, hlink⟩ := Finset.mem_filter.mp hc
    obtain ⟨-, hlink'⟩ := Finset.mem_filter.mp hc'
    obtain ⟨a, -, ha, -, -⟩ := hg.mem_calleesOf.mp hlink
    obtain ⟨a', -, ha', -, -⟩ := hg.mem_calleesOf.mp hlink'
    have haa : a = a' := by
      rw [← Graph.nameOf_of_getElem? ha, ← Graph.nameOf_of_getElem? ha']
      exact congrArg Prod.fst heq
    exact hg.indexed.place_unique ha (haa ▸ ha')

theorem Graph.Shows.callsTo_eq_zero_iff {g : Graph} {h : History} (hg : g.Shows h.picture)
    (hs : h.Sound) {t : Nat} {b : Name} (ht : g.names[t]? = some b) :
    h.callsTo b = 0 ↔ ∀ c ∈ g.callers, t ∉ g.calleesOf c := by
  rw [History.callsTo, List.countP_eq_zero]
  constructor
  · intro hnone c _ hlink
    obtain ⟨a, b', -, hb', hab⟩ := hg.mem_calleesOf.mp hlink
    have hbb : b' = b := Option.some.inj (hb'.symm.trans ht)
    exact hnone (a, b') hab (by simpa using hbb)
  · intro hnone call hcall hto
    have hto' : call.2 = b := by simpa using hto
    -- The caller of the call has a node, and that node links to `t`.
    have hcaller : call.1 ∈ h.callers := hs.called call hcall
    have hnode : call.1 ∈ g.names := by
      rw [hg.names]
      exact List.mem_eraseDups.mpr (History.mem_names_of_mem_callers hcaller)
    obtain ⟨c, hc⟩ := List.mem_iff_getElem?.mp hnode
    refine hnone c (hg.mem_callers.mpr ⟨call.1, hc, hcaller⟩) ?_
    exact (hg.mem_calleesOf_iff hc ht).mpr (hto' ▸ hcall)

/-- Every call site is counted at one node. -/
theorem Graph.Shows.sum_multiplicity {g : Graph} {h : History} (hg : g.Shows h.picture) :
    g.multiplicity.sum = h.calls.length := by
  rw [hg.multiplicity]
  refine sum_countP_eq_length hg.indexed.nodup Prod.snd ?_
  intro call hcall
  rw [hg.names]
  exact List.mem_eraseDups.mpr (History.mem_names_of_mem_calls hcall)

/-! ## 2. The invariant -/

theorem Graph.Shows.id?_eq_some_iff {g : Graph} {p : Picture} (hg : g.Shows p) (a : Name) (i : Int) :
    (g.id? a).map Int.ofNat = some i ↔ 0 ≤ i ∧ i < g.size ∧ g.nameOf i = a := by
  rw [Option.map_eq_some_iff]
  constructor
  · rintro ⟨k, hk, rfl⟩
    have hget : g.names[k]? = some a := hg.id?_eq_some.mp hk
    exact ⟨Int.natCast_nonneg k, Int.ofNat_lt.mpr (Graph.lt_size_of_getElem? hget),
      Graph.nameOf_of_getElem? hget⟩
  · rintro ⟨hpos, hlt, hname⟩
    obtain ⟨k, rfl⟩ := Int.eq_ofNat_of_zero_le hpos
    obtain ⟨b, hb⟩ := Graph.getElem?_names_of_lt (Int.ofNat_lt.mp hlt)
    rw [Graph.nameOf_of_getElem? hb] at hname
    exact ⟨k, hg.id?_eq_some.mpr (hname ▸ hb), rfl⟩

/-- A graph that shows a sound history is in step. -/
theorem Graph.Shows.valid {g : Graph} {h : History} (hg : g.Shows h.picture) (hs : h.Sound) :
    g.Valid where
  names_nonempty := by
    intro a ha
    rw [hg.names] at ha
    exact hs.named a (List.mem_eraseDups.mp ha)
  names_distinct := hg.indexed.nodup
  id?_eq_some_iff := hg.id?_eq_some_iff
  membership_length := by rw [hg.membership, List.length_map]; rfl
  multiplicity_length := by rw [hg.multiplicity, List.length_map]; rfl
  seen := by
    intro i hpos hlt
    obtain ⟨k, rfl⟩ := Int.eq_ofNat_of_zero_le hpos
    exact hg.stateOf_ne_unseen (Int.ofNat_lt.mp hlt)
  owns_iff := by
    intro i
    rw [Graph.owns, decide_eq_true_iff]
    cases i with
    | ofNat k =>
      rw [Int.ofNat_eq_natCast, hg.stateOf_eq_confirmed k]
      exact ⟨fun hk => ⟨k, hk, rfl⟩, fun ⟨c, hc, hck⟩ => Int.ofNat_inj.mp hck ▸ hc⟩
    | negSucc k => simp [Graph.stateOf]
  callees_lt := by
    intro i t ht
    cases i with
    | ofNat k =>
      obtain ⟨-, b, -, hb, -⟩ := hg.mem_calleesOf.mp ht
      exact Graph.lt_size_of_getElem? hb
    | negSucc k => simp [Graph.calleesOf] at ht
  card_callers_le := by
    intro t ht
    obtain ⟨b, hb⟩ := Graph.getElem?_names_of_lt ht
    rw [hg.multiplicityOf hb]
    exact hg.card_callers_le hb
  multiplicity_eq_zero_iff := by
    intro t ht
    obtain ⟨b, hb⟩ := Graph.getElem?_names_of_lt ht
    rw [hg.multiplicityOf hb]
    exact hg.callsTo_eq_zero_iff hs hb

/-- **No run leaves the invariant.** From the empty graph, any calls of `addCaller` and `addCallee` in any
    order, with any names and any ids, end in a valid graph, and its call sites are exactly the calls of
    `addCallee` that were answered with an id. -/
theorem Graph.run_valid (steps : List GraphStep) :
    (Graph.run {} steps).1.Valid ∧
      (Graph.run {} steps).1.multiplicity.sum =
        Graph.callsMade steps (Graph.run {} steps).2 := by
  have hempty : Graph.Shows {} (History.picture []) := Graph.shows_empty rfl
  obtain ⟨h, hg, hs, hcalls⟩ := hempty.run History.sound_nil steps
  rw [List.nil_append] at hg hs
  exact ⟨hg.valid hs, hg.sum_multiplicity.trans hcalls⟩

end CallCoupling
