import CallCoupling.Proofs.Graph.Distance
import CallCoupling.Proofs.Graph.Selection

/-!
# The neighbourhood of a selection

A view keeps the nodes of a graph that are near enough to a selection, and the links between them. It can be read
without the graph: whoever looks for shortest ways in the links of the view alone finds the distances that the view
lists, and these are the distances in the graph. The reason is that a shortest way to a node that is kept goes
through nearer nodes only, which are kept as well (`AtDistance.cut`); all links between them are there, because a
link is kept exactly if both its ends are.
-/

set_option autoImplicit false

namespace CallCoupling

/-- One of two nodes calls the other, as far as a document lists calls. -/
def Document.Touches (d : Document) (u v : Nat) : Prop :=
  ∃ l ∈ d.links, (l.source = u ∧ l.target = v) ∨ (l.source = v ∧ l.target = u)

/-- A node can be reached from a selection, within a depth unless that is negative. -/
def Graph.Near (g : Graph) (selected : List Nat) (depth : Int) (v : Nat) : Prop :=
  ∃ d : Nat, AtDistance g.Touches selected v d ∧ (0 ≤ depth → (d : Int) ≤ depth)

/-- **The view is the part of the graph around the selection**, and tells distances by itself. -/
structure Graph.Surrounds (g : Graph) (ids : List Nat) (depth : Int) (view : View) : Prop where
  selected : view.selected = ids
  ascending : view.document.nodes.Pairwise fun n m => n.id < m.id
  nodes : ∀ n, n ∈ view.document.nodes ↔ n ∈ g.nodeRecords ∧ g.Near ids depth n.id
  links : view.document.links = g.linkRecords.filter fun l =>
    l.source ∈ view.document.nodes.map NodeRecord.id ∧ l.target ∈ view.document.nodes.map NodeRecord.id
  keys : view.distances.map Prod.fst = view.document.nodes.map NodeRecord.id
  zero : ∀ i ∈ ids, (i, 0) ∈ view.distances
  inside : ∀ v d, (v, d) ∈ view.distances ↔ AtDistance view.document.Touches view.selected v d
  outside : ∀ v d, (v, d) ∈ view.distances → AtDistance g.Touches ids v d

/-! ## 1. What is near -/

theorem Graph.lt_of_mem_select {g : Graph} {selectors : List Name} {i : Nat} (hi : i ∈ g.select selectors) :
    i < g.size := (Graph.mem_select.1 hi).1

theorem Graph.touches_document {g : Graph} {u v : Nat} : g.document.Touches u v ↔ g.Touches u v := by
  constructor
  · rintro ⟨l, hl, ⟨rfl, rfl⟩ | ⟨rfl, rfl⟩⟩
    · exact Or.inl (Graph.mem_linkRecords.1 hl).1
    · exact Or.inr (Graph.mem_linkRecords.1 hl).1
  · rintro (hcall | hcall)
    · obtain ⟨l, hl, hsource, htarget⟩ := Graph.exists_linkRecord hcall
      exact ⟨l, hl, Or.inl ⟨hsource, htarget⟩⟩
    · obtain ⟨l, hl, hsource, htarget⟩ := Graph.exists_linkRecord hcall
      exact ⟨l, hl, Or.inr ⟨hsource, htarget⟩⟩

theorem Graph.pairwise_nodeRecords (g : Graph) : g.nodeRecords.Pairwise fun n m => n.id < m.id := by
  rw [Graph.nodeRecords_eq, List.pairwise_map]
  exact List.pairwise_lt_range

theorem Graph.exists_nodeRecord {g : Graph} {v : Nat} (hv : v < g.size) : ∃ n ∈ g.nodeRecords, n.id = v := by
  rw [Graph.nodeRecords_eq]
  exact ⟨_, List.mem_map.2 ⟨v, List.mem_range.2 hv, rfl⟩, rfl⟩

section

variable {g : Graph} {selected : List Nat} {depth : Int}

theorem Graph.Valid.within_iff (hg : g.Valid) (hselected : ∀ i ∈ selected, i < g.size) (v : Nat) :
    Graph.within depth (((g.distances selected)[v]?).getD none) = true ↔ g.Near selected depth v := by
  constructor
  · intro hwithin
    cases hlabel : (g.distances selected)[v]? with
    | none =>
      rw [hlabel] at hwithin
      cases hwithin
    | some label =>
      cases label with
      | none =>
        rw [hlabel] at hwithin
        cases hwithin
      | some d =>
        refine ⟨d, (hg.getElem?_distances hselected).1 hlabel, fun hpos => ?_⟩
        simp only [hlabel, Option.getD_some, Graph.within, Bool.or_eq_true, decide_eq_true_eq] at hwithin
        omega
  · rintro ⟨d, hd, hdepth⟩
    rw [(hg.getElem?_distances hselected).2 hd, Option.getD_some, Graph.within, Bool.or_eq_true,
      decide_eq_true_eq, decide_eq_true_eq]
    omega

theorem Graph.Near.lt_size (hg : g.Valid) (hselected : ∀ i ∈ selected, i < g.size) {v : Nat}
    (hv : g.Near selected depth v) : v < g.size := by
  obtain ⟨d, ⟨hway, -⟩, -⟩ := hv
  cases hway with
  | start hmem => exact hselected v hmem
  | step _ htouch => exact hg.touches_lt htouch

/-! ## 2. Views -/

/-- **The links between near nodes tell the distances of the near nodes**, and of no other. -/
theorem Graph.atDistance_part {d : Document}
    (hlinks : ∀ l, l ∈ d.links ↔
      l ∈ g.linkRecords ∧ g.Near selected depth l.source ∧ g.Near selected depth l.target)
    (hstarts : ∀ i ∈ selected, g.Near selected depth i) {v k : Nat} :
    AtDistance d.Touches selected v k ↔ AtDistance g.Touches selected v k ∧ (0 ≤ depth → (k : Int) ≤ depth) := by
  have hsub : ∀ u v, d.Touches u v → g.Touches u v := by
    rintro u v ⟨l, hl, hends⟩
    exact Graph.touches_document.1 ⟨l, ((hlinks l).1 hl).1, hends⟩
  have hcut : ∀ {v k : Nat}, AtDistance g.Touches selected v k → (0 ≤ depth → (k : Int) ≤ depth) →
      AtDistance d.Touches selected v k := by
    intro v k hk hdepth
    refine hk.cut (fun k => 0 ≤ depth → (k : Int) ≤ depth) (fun k hnear hpos => ?_) hsub ?_ hdepth
    · have hle := hnear hpos
      omega
    · intro u w k hu hw hnear htouch
      have hnearu : g.Near selected depth u := ⟨k, hu, fun hpos => by have hle := hnear hpos; omega⟩
      have hnearw : g.Near selected depth w := ⟨k + 1, hw, hnear⟩
      obtain ⟨l, hl, hends⟩ := Graph.touches_document.2 htouch
      refine ⟨l, (hlinks l).2 ⟨hl, ?_⟩, hends⟩
      rcases hends with ⟨rfl, rfl⟩ | ⟨rfl, rfl⟩
      · exact ⟨hnearu, hnearw⟩
      · exact ⟨hnearw, hnearu⟩
  constructor
  · intro hk
    -- Any place that is reached in the part is near, for ends of links and starts are.
    have hnear : g.Near selected depth v := by
      obtain ⟨hway, -⟩ := hk
      cases hway with
      | start hmem => exact hstarts v hmem
      | step _ htouch =>
        obtain ⟨l, hl, ⟨-, rfl⟩ | ⟨rfl, -⟩⟩ := htouch
        · exact ((hlinks l).1 hl).2.2
        · exact ((hlinks l).1 hl).2.1
    obtain ⟨j, hj, hdepth⟩ := hnear
    obtain rfl : j = k := (hcut hj hdepth).unique hk
    exact ⟨hj, hdepth⟩
  · rintro ⟨hk, hdepth⟩
    exact hcut hk hdepth

theorem Graph.Valid.mem_nodes_around (hg : g.Valid) (hselected : ∀ i ∈ selected, i < g.size) (n : NodeRecord) :
    n ∈ (g.around selected depth).document.nodes ↔ n ∈ g.nodeRecords ∧ g.Near selected depth n.id := by
  show n ∈ g.nodeRecords.filter _ ↔ _
  rw [List.mem_filter, hg.within_iff hselected]

/-- The ids of a view are the nodes that are near. -/
theorem Graph.Valid.mem_ids_around (hg : g.Valid) (hselected : ∀ i ∈ selected, i < g.size) (v : Nat) :
    v ∈ (g.around selected depth).document.nodes.map NodeRecord.id ↔ g.Near selected depth v := by
  rw [List.mem_map]
  constructor
  · rintro ⟨n, hn, rfl⟩
    exact ((hg.mem_nodes_around hselected n).1 hn).2
  · intro hv
    obtain ⟨n, hn, rfl⟩ := Graph.exists_nodeRecord (hv.lt_size hg hselected)
    exact ⟨n, (hg.mem_nodes_around hselected n).2 ⟨hn, hv⟩, rfl⟩

theorem Graph.Valid.mem_distances_around (hg : g.Valid) (hselected : ∀ i ∈ selected, i < g.size) {v k : Nat} :
    (v, k) ∈ (g.around selected depth).distances ↔
      AtDistance g.Touches selected v k ∧ (0 ≤ depth → (k : Int) ≤ depth) := by
  show (v, k) ∈ (g.around selected depth).document.nodes.map _ ↔ _
  rw [List.mem_map]
  constructor
  · rintro ⟨n, hn, heq⟩
    obtain ⟨-, j, hj, hdepth⟩ := (hg.mem_nodes_around hselected n).1 hn
    rw [(hg.getElem?_distances hselected).2 hj] at heq
    obtain ⟨rfl, rfl⟩ := Prod.mk.inj heq
    exact ⟨hj, hdepth⟩
  · rintro ⟨hk, hdepth⟩
    obtain ⟨n, hn, rfl⟩ := List.mem_map.1 ((hg.mem_ids_around hselected v).2 ⟨k, hk, hdepth⟩)
    refine ⟨n, hn, ?_⟩
    rw [(hg.getElem?_distances hselected).2 hk]
    rfl

theorem Graph.Valid.surrounds_around (hg : g.Valid) (hselected : ∀ i ∈ selected, i < g.size) :
    g.Surrounds selected depth (g.around selected depth) := by
  have hnear : ∀ i ∈ selected, g.Near selected depth i := fun i hi => ⟨0, atDistance_start hi, id⟩
  refine ⟨rfl, g.pairwise_nodeRecords.filter _, hg.mem_nodes_around hselected, ?_, ?_, ?_, ?_, ?_⟩
  · refine List.filter_congr fun l _ => ?_
    rw [Bool.eq_iff_iff, Bool.and_eq_true, decide_eq_true_iff, hg.mem_ids_around hselected,
      hg.mem_ids_around hselected]
    exact and_congr (hg.within_iff hselected _) (hg.within_iff hselected _)
  · exact (List.map_map ..).trans rfl
  · intro i hi
    exact (hg.mem_distances_around hselected).2 ⟨atDistance_start hi, id⟩
  · intro v k
    rw [hg.mem_distances_around hselected]
    refine (Graph.atDistance_part (fun l => ?_) hnear).symm
    show l ∈ g.linkRecords.filter _ ↔ _
    rw [List.mem_filter, Bool.and_eq_true, hg.within_iff hselected, hg.within_iff hselected]
  · intro v k hmem
    exact ((hg.mem_distances_around hselected).1 hmem).1

end

/-- **A view is the neighbourhood of its selection.** Of every graph that steps can make, every list of selectors and
    every depth, there is no view exactly if nothing is selected; and otherwise it shows the part of the graph around
    what is selected, in which shortest ways have the lengths that it lists. -/
theorem Graph.focus_surrounds (steps : List GraphStep) (selectors : List Name) (depth : Int) :
    let g := (Graph.run {} steps).1
    match g.focus selectors depth with
    | .error e => e = .noSelection ∧ g.select selectors = []
    | .ok view => g.select selectors ≠ [] ∧ g.Surrounds (g.select selectors) depth view := by
  intro g
  unfold Graph.focus
  cases hselected : g.select selectors with
  | nil => exact ⟨rfl, rfl⟩
  | cons i selected =>
    have hlt : ∀ i ∈ g.select selectors, i < g.size := fun _ => Graph.lt_of_mem_select
    rw [hselected] at hlt
    exact ⟨nofun, (Graph.valid_run steps).1.surrounds_around hlt⟩

/-- A chain of three calls and a call into it from elsewhere, within one step of its second node. -/
example :
    let name (c : Char) : Name := [.char c]
    let g := (Graph.run {} [.caller (name 'A'), .callee 0 (name 'B'), .caller (name 'B'), .callee 1 (name 'C'),
      .caller (name 'C'), .callee 2 (name 'D'), .caller (name 'X'), .callee 4 (name 'B')]).1
    (g.around [1] 1).document.nodes.map NodeRecord.id = [0, 1, 2, 4] ∧
      (g.around [1] 1).distances = [(0, 1), (1, 0), (2, 1), (4, 1)] := by
  decide +kernel

end CallCoupling
