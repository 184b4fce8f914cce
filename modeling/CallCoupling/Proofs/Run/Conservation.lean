import CallCoupling.Proofs.Agreement
import CallCoupling.Proofs.Coupling.Pairs
import CallCoupling.Proofs.Graph.Document
import CallCoupling.Proofs.Run.Course

/-!
# No call is lost

The summary of a run counts the same calls four times over: as invocations of the model, as call sites into the
nodes of the graph, as counts of the matrix with those that were dropped, and as strengths of pairs. All four
come from one list, the call sites of the model (`Chain.callSites`), and none leaves anything out of it:

* a run succeeds only if every invocation has a receiver, so there is a call site for each;
* the graph counts a call site at its target, and every target is a node;
* the matrix counts or drops it, whatever the policy, and never both;
* the pairs take each cell of the matrix once.
-/

set_option autoImplicit false

namespace CallCoupling

/-! ## 1. The call sites of a model -/

theorem length_callSites {chain : Chain} {methods : List Method} (h : chain.ResolvesAll methods) :
    (chain.callSites methods).length = (methods.map fun method => method.invocations.length).sum := by
  rw [Chain.callSites, List.length_flatMap]
  refine congrArg List.sum (List.map_congr_left fun method hmethod => ?_)
  rw [List.filterMap_length_eq_length]
  intro i hi
  obtain ⟨receiver, hreceiver⟩ := h method hmethod i hi
  simp [Method.site?, hreceiver, Except.toOption]

theorem Project.invocationCount_eq {p : Project} {methods : List Method}
    (h : p.methods = methods.map some) :
    p.invocationCount = (methods.map fun method => method.invocations.length).sum := by
  rw [Project.invocationCount, h, List.map_map]
  rfl

/-! ## 2. The graph -/

/-- **A graph of methods has one call site for each of theirs, and their owners as its own nodes.** That there
is a graph means that no method is missing. -/
theorem Graph.history_of_ofMethods {methods : List (Option Method)} {chain : Chain} {g : Graph}
    (hok : Graph.ofMethods methods chain = .ok g) :
    ∃ (present : List Method) (h : History), methods = present.map some ∧ g.Keyed ∧ g.Shows h.picture ∧
      h.calls = chain.callSites present ∧ h.callers.toFinset = (present.map Method.owner).toFinset := by
  have hkeyed : g.Keyed := Graph.keyed_of_build hok
  rcases Graph.build_cases (fun m => (m.map Method.invocations).getD []) Graph.ownerName
      (Graph.receiverName chain) methods with ⟨e, -, herr⟩ | ⟨hnamed, g', hok', hg, -⟩
  · cases hok.symm.trans herr
  · cases hok.symm.trans hok'
    obtain ⟨present, rfl⟩ : ∃ present : List Method, present.map some = methods := by
      rw [← Set.mem_range, Set.range_list_map]
      intro method hmethod
      obtain ⟨a, ha, -⟩ := hnamed (.parent method) ((mem_places_parent _).mpr hmethod)
      cases method with
      | none => cases ha
      | some m => exact ⟨m, rfl⟩
    refine ⟨present, _, rfl, hkeyed, hg, calls_sightings_methods present chain, ?_⟩
    ext a
    rw [List.mem_toFinset, mem_callers_sightings, List.mem_toFinset]
    simp [Graph.ownerName]

theorem Graph.Shows.sum_multiplicityOf {g : Graph} {h : History} (hg : g.Shows h.picture) :
    ((List.range g.size).map fun (i : Nat) => g.multiplicityOf i).sum = h.calls.length := by
  have hlength : g.multiplicity.length = g.size := by
    rw [hg.multiplicity, List.length_map]
    rfl
  rw [← hg.sum_multiplicity, ← List.map_id g.multiplicity, ← hlength]
  refine congrArg List.sum (map_eq_map_range fun i n hi => ?_).symm
  simp [Graph.multiplicityOf, hi]

/-! ## 3. The matrix -/

/-- **Every call site is counted or dropped, and never both**, whatever the policy. -/
theorem Matrix.Tallies.conserves {m : Matrix} {policy : Policy} {declared : List Name}
    {sites : List (Name × Name)} (hm : m.Tallies policy declared sites) :
    m.total + m.dropped = sites.length := by
  -- Where all ends are labels nothing is dropped.
  have hclosed : (∀ site ∈ sites, site.1 ∈ m.labels ∧ site.2 ∈ m.labels) → m.dropped = 0 →
      m.total + m.dropped = sites.length := by
    intro hends hdropped
    rw [hdropped, Nat.add_zero, hm.total_eq, List.countP_eq_length]
    intro site hsite
    simpa using hends site hsite
  cases policy with
  | grow => exact hclosed hm.closed_grow hm.dropped
  | drop => exact hm.total_add_dropped
  | reject =>
    refine hclosed (fun site hsite => ?_) hm.dropped
    have hlabels : m.labels = declared := hm.labels
    rw [hlabels]
    exact hm.closed rfl site hsite

/-! ## 4. The summary -/

namespace Run

theorem unlessCancelled_eq_ok {α : Type} {cancelled : Bool} {x : Except Failure α} {a : α}
    (h : unlessCancelled cancelled x = .ok a) : x = .ok a := by
  unfold unlessCancelled at h
  split at h
  · cases h
  · exact h

/-- What a run that succeeded has computed. -/
theorem perform_eq_ok {σ : Type} {obs : Observer σ} {r : Request} {w w' : World σ} {result : Result}
    (h : perform obs r w = (.ok result, w')) :
    ∃ (cancelled : Bool) (policy : Policy),
      (r.source.load r.config cancelled w.files).2 = .ok result.project ∧
      Graph.ofMethods result.project.methods Chain.standard = .ok result.graph ∧
      Matrix.build result.project.typeList result.project.methods Chain.standard policy =
        .ok result.matrix := by
  obtain ⟨houtcome, -⟩ := perform_eq obs r w
  rw [h] at houtcome
  generalize hend : ending r _ w.files = e at houtcome
  obtain ⟨e, files⟩ := e
  obtain rfl := Ending.outcome_eq_ok houtcome.symm
  obtain ⟨c, hcompute, -, rfl⟩ := ending_eq_finished hend
  obtain ⟨policy, -, hload, hgraph, hmatrix⟩ := compute_eq_ok hcompute
  exact ⟨_, policy, mapError_eq_ok.1 hload, mapError_eq_ok.1 (unlessCancelled_eq_ok hgraph),
    mapError_eq_ok.1 (unlessCancelled_eq_ok hmatrix)⟩

/-- **No call is lost.** -/
theorem perform_conserves {σ : Type} (obs : Observer σ) (r : Request) (w w' : World σ) (result : Result)
    (hrun : perform obs r w = (.ok result, w')) :
    (∃ cancelled, (r.source.load r.config cancelled w.files).2 = .ok result.project) ∧
      result.summary.invocations =
        result.summary.dropped + (result.summary.pairs.map Pair.strength).sum ∧
      result.summary.nodes = result.graph.size ∧
      result.summary.links = result.graph.linkCount ∧
      result.summary.ownNodes =
        (result.project.methods.filterMap fun m => m.map Method.owner).toFinset.card ∧
      ((List.range result.graph.size).map fun (i : Nat) => (result.graph.multiplicityOf i : Int)).sum =
        result.summary.invocations := by
  obtain ⟨cancelled, policy, hload, hgraph, hmatrix⟩ := perform_eq_ok hrun
  obtain ⟨present, h, hpresent, hkeyed, hshows, hcalls, howners⟩ := Graph.history_of_ofMethods hgraph
  rw [hpresent] at hmatrix
  obtain ⟨hresolves, htally⟩ := Matrix.tallies_of_build hmatrix
  have hsites : (Chain.standard.callSites present).length = result.project.invocationCount := by
    rw [length_callSites hresolves, Project.invocationCount_eq hpresent]
  refine ⟨⟨cancelled, hload⟩, ?_, ?_, ?_, ?_, ?_⟩
  · have hstrength : (result.summary.pairs.map Pair.strength).sum = result.matrix.total :=
      htally.counts.sum_strength
    show (result.project.invocationCount : Int) = result.matrix.dropped + _
    rw [hstrength, ← hsites, ← htally.conserves]
    omega
  · show ((result.graph.nodeRecords.length : Nat) : Int) = _
    simp [Graph.nodeRecords, Graph.size]
  · exact congrArg Nat.cast hkeyed.length_linkRecords
  · have hfilter : result.project.methods.filterMap (fun m => m.map Method.owner) =
        present.map Method.owner := by
      simp [hpresent, List.filterMap_map]
    rw [hfilter, ← howners]
    exact congrArg Nat.cast hshows.length_own
  · show _ = (result.project.invocationCount : Int)
    rw [← hsites, ← hcalls, ← hshows.sum_multiplicityOf, Nat.cast_list_sum, List.map_map]
    rfl

/-- Two declared types call each other, one of them calls itself and a library, and a method that belongs to
neither calls the first. -/
def withStrangers : Request :=
  let first : Method := { owner := "A", invocations := [.into "B", .into "A", .into "Library"].map some }
  let stranger : Method := { owner := "C", invocations := [some (.into "A")] }
  let second : Method := { owner := "B", invocations := [some (.into "A")] }
  { source := .given (.ok { types := some [some ⟨"A", [some first, some stranger]⟩, some ⟨"B", [some second]⟩] })
    config := some { outOfSet := "drop" }
    runId := "1"
    reason := "test" }

/-- Two of the five calls are dropped, and the other three are in the pairs. -/
theorem perform_conserves_with_strangers :
    ∃ result w', perform Observer.deaf withStrangers { observer := () } = (.ok result, w') ∧
      result.summary.invocations = 5 ∧ result.summary.dropped = 2 ∧
      (result.summary.pairs.map Pair.strength).sum = 3 ∧ result.summary.nodes = 4 ∧
      result.summary.ownNodes = 3 ∧
      ((List.range result.graph.size).map fun (i : Nat) => (result.graph.multiplicityOf i : Int)).sum = 5 := by
  have hfigures : ((perform Observer.deaf withStrangers { observer := () }).1.map fun result =>
      (result.summary.invocations, result.summary.dropped, result.graph.size,
        (result.project.methods.filterMap fun m => m.map Method.owner).toFinset.card)) =
      .ok (5, 2, 4, 3) := by decide +kernel
  cases hrun : perform Observer.deaf withStrangers { observer := () } with
  | mk outcome w' =>
    rw [hrun] at hfigures
    cases outcome with
    | error f => cases hfigures
    | ok result =>
      simp only [Except.map, Except.ok.injEq, Prod.mk.injEq] at hfigures
      obtain ⟨hinvocations, hdropped, hsize, howners⟩ := hfigures
      obtain ⟨-, hsum, hnodes, -, hown, hcalls⟩ := perform_conserves _ _ _ _ _ hrun
      refine ⟨result, w', rfl, hinvocations, hdropped, by omega, ?_, ?_, hcalls.trans hinvocations⟩
      · rw [hnodes, hsize]
        rfl
      · rw [hown, howners]
        rfl

end Run

end CallCoupling
