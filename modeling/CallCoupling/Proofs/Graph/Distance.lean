import CallCoupling.Graph.Focus
import CallCoupling.Proofs.Graph.Canonical
import CallCoupling.Proofs.Graph.Search

/-!
# Distances in a call graph

Distances are searched for in pairs of neighbours, which leave out links of a node to itself and list two nodes
that call each other twice. What they mean is said of the graph: a step goes along a call in either direction
(`Graph.Touches`), also from a node to itself. The two differ only by steps that lead nowhere, and these are on
no shortest way (`atDistance_congr`).

`Graph.distances_exact` is for every graph that steps can make. It also says on how little distances depend: on
which different nodes are joined at all, and on which ids are selected.
-/

set_option autoImplicit false

namespace CallCoupling

/-- One of two nodes calls the other. -/
def Graph.Touches (g : Graph) (u v : Nat) : Prop := v ∈ g.calleesOf u ∨ u ∈ g.calleesOf v

/-! ## 1. Neighbours -/

theorem Graph.exists_linkRecord {g : Graph} {c t : Nat} (ht : t ∈ g.calleesOf c) :
    ∃ l ∈ g.linkRecords, l.source = c ∧ l.target = t :=
  ⟨⟨c, t, Weight.ofCalls (g.multiplicityOf t)⟩, Graph.mem_linkRecords.2 ⟨ht, rfl⟩, rfl, rfl⟩

theorem Graph.mem_adjacent {g : Graph} {u v : Nat} : (u, v) ∈ g.adjacent ↔ u ≠ v ∧ g.Touches u v := by
  unfold Graph.adjacent
  rw [List.mem_flatMap]
  constructor
  · rintro ⟨l, hl, hpair⟩
    obtain ⟨ht, -⟩ := Graph.mem_linkRecords.1 hl
    split at hpair
    · cases hpair
    · rename_i hne
      simp only [List.mem_cons, Prod.mk.injEq, List.not_mem_nil, or_false] at hpair
      rcases hpair with ⟨rfl, rfl⟩ | ⟨rfl, rfl⟩
      · exact ⟨hne, Or.inl ht⟩
      · exact ⟨Ne.symm hne, Or.inr ht⟩
  · rintro ⟨hne, hcall | hcall⟩
    · obtain ⟨l, hl, rfl, rfl⟩ := Graph.exists_linkRecord hcall
      exact ⟨l, hl, by simp [hne]⟩
    · obtain ⟨l, hl, rfl, rfl⟩ := Graph.exists_linkRecord hcall
      exact ⟨l, hl, by simp [Ne.symm hne]⟩

theorem Graph.mem_neighboursIn {pairs : List (Nat × Nat)} {u v : Nat} :
    v ∈ Graph.neighboursIn pairs u ↔ (u, v) ∈ pairs := by
  unfold Graph.neighboursIn
  rw [List.mem_filterMap]
  constructor
  · rintro ⟨⟨a, b⟩, hmem, hpair⟩
    by_cases ha : a = u
    · simp only [ha, if_true, Option.some.injEq] at hpair
      exact ha ▸ hpair ▸ hmem
    · simp [ha] at hpair
  · intro hmem
    exact ⟨(u, v), hmem, by simp⟩

theorem Graph.Valid.caller_lt {g : Graph} (hg : g.Valid) {c : Nat} (hc : c ∈ g.callers) : c < g.size := by
  by_contra hout
  have howns : g.owns c = true := (hg.owns_iff c).2 ⟨c, hc, rfl⟩
  rw [Graph.owns, (hg.outside (Nat.le_of_not_lt hout)).1] at howns
  cases howns

theorem Graph.Valid.touches_lt {g : Graph} (hg : g.Valid) {u v : Nat} (h : g.Touches u v) : v < g.size := by
  rcases h with hcall | hcall
  · exact hg.callees_lt u v hcall
  · exact hg.caller_lt (Graph.mem_callers_of_mem_calleesOf hcall)

/-! ## 2. Distances -/

theorem Graph.Valid.length_distances {g : Graph} (hg : g.Valid) {ids : List Nat} (hids : ∀ i ∈ ids, i < g.size) :
    (g.distances ids).length = g.size :=
  (Search.run_start (fun _ _ hv => hg.touches_lt (Graph.mem_adjacent.1 (Graph.mem_neighboursIn.1 hv)).2) hids).1

/-- **The number at a node is its distance.** -/
theorem Graph.Valid.getElem?_distances {g : Graph} (hg : g.Valid) {ids : List Nat} (hids : ∀ i ∈ ids, i < g.size)
    {v d : Nat} : (g.distances ids)[v]? = some (some d) ↔ AtDistance g.Touches ids v d := by
  have hnext : ∀ u v, v ∈ Graph.neighboursIn g.adjacent u ↔ u ≠ v ∧ g.Touches u v := fun u v =>
    Graph.mem_neighboursIn.trans Graph.mem_adjacent
  have hrun : (g.distances ids)[v]? = some (some d) ↔
      AtDistance (fun u v => v ∈ Graph.neighboursIn g.adjacent u) ids v d :=
    (Search.run_start (fun u v hv => hg.touches_lt ((hnext u v).1 hv).2) hids).2 v d
  refine hrun.trans (atDistance_congr ?_ ?_ fun _ => Iff.rfl)
  · intro u v hv
    exact ((hnext u v).1 hv).2
  · intro u v htouch
    by_cases huv : u = v
    · exact Or.inl huv
    · exact Or.inr ((hnext u v).2 ⟨huv, htouch⟩)

/-- Where there is no number, there is no way. -/
theorem Graph.Valid.getElem?_distances_none {g : Graph} (hg : g.Valid) {ids : List Nat}
    (hids : ∀ i ∈ ids, i < g.size) {v : Nat} (hv : v < g.size) :
    (g.distances ids)[v]? = some none ↔ ∀ n, ¬ Reaches g.Touches ids n v := by
  constructor
  · intro hnone n hway
    obtain ⟨d, hd⟩ := hway.exists_atDistance
    rw [(hg.getElem?_distances hids).2 hd] at hnone
    cases hnone
  · intro hno
    cases hlabel : (g.distances ids)[v]? with
    | none =>
      have hout : (g.distances ids).length ≤ v := List.getElem?_eq_none_iff.1 hlabel
      rw [hg.length_distances hids] at hout
      omega
    | some label =>
      cases label with
      | none => rfl
      | some d => exact absurd ((hg.getElem?_distances hids).1 hlabel).1 (hno d)

/-- **Distances depend on little**: on which different nodes are joined, and on the set of the starts. -/
theorem Graph.Valid.distances_congr {g g' : Graph} (hg : g.Valid) (hg' : g'.Valid) {ids ids' : List Nat}
    (hids : ∀ i ∈ ids, i < g.size) (hsize : g'.size = g.size)
    (htouch : ∀ u v, u ≠ v → (g'.Touches u v ↔ g.Touches u v)) (hsame : ∀ i, i ∈ ids' ↔ i ∈ ids) :
    g'.distances ids' = g.distances ids := by
  have hids' : ∀ i ∈ ids', i < g'.size := fun i hi => hsize ▸ hids i ((hsame i).1 hi)
  -- Both are compared with the graph of what is joined in both, without loops.
  have hcommon : ∀ v d, AtDistance g'.Touches ids' v d ↔ AtDistance g.Touches ids v d := by
    intro v d
    have hless : AtDistance (fun u v => u ≠ v ∧ g.Touches u v) ids v d ↔ AtDistance g.Touches ids v d :=
      atDistance_congr (fun _ _ h => h.2) (fun u v h => (em (u = v)).imp id fun huv => ⟨huv, h⟩)
        fun _ => Iff.rfl
    have hless' : AtDistance (fun u v => u ≠ v ∧ g.Touches u v) ids v d ↔ AtDistance g'.Touches ids' v d :=
      atDistance_congr (fun u v h => (htouch u v h.1).2 h.2)
        (fun u v h => (em (u = v)).imp id fun huv => ⟨huv, (htouch u v huv).1 h⟩) fun i => (hsame i).symm
    exact hless'.symm.trans hless
  have hlength : (g'.distances ids').length = (g.distances ids).length := by
    rw [hg'.length_distances hids', hg.length_distances hids, hsize]
  refine List.ext_getElem hlength fun v hv hv' => Option.ext fun d => ?_
  have hentry := hcommon v d
  rw [← hg'.getElem?_distances hids', ← hg.getElem?_distances hids, List.getElem?_eq_getElem hv,
    List.getElem?_eq_getElem hv'] at hentry
  simpa using hentry

/-- **Distances are exact.** In every graph that steps can make and from any of its nodes, repeated or none at all,
    every node gets the least number of calls on a way from one of them, taken in either direction, and no number
    exactly if there is no such way. Neither calls of a node to itself nor the direction of calls between others,
    nor the order and the repetition of the ids, make a difference. -/
theorem Graph.distances_exact (steps : List GraphStep) (ids : List Int)
    (hids : ∀ i ∈ ids, 0 ≤ i ∧ i < ((Graph.run {} steps).1.size : Int)) :
    let g := (Graph.run {} steps).1
    let starts := ids.map Int.toNat
    ∃ labels, g.distancesFrom? ids = some labels ∧ labels.length = g.size ∧
      (∀ v d : Nat, labels[v]? = some (some d) ↔ IsLeast {n | Reaches g.Touches starts n v} d) ∧
      (∀ v < g.size, labels[v]? = some none ↔ ∀ n, ¬ Reaches g.Touches starts n v) ∧
      ∀ (steps' : List GraphStep) (ids' : List Int),
        let g' := (Graph.run {} steps').1
        g'.size = g.size → (∀ u v, u ≠ v → (g'.Touches u v ↔ g.Touches u v)) →
          (∀ i, i ∈ ids' ↔ i ∈ ids) → g'.distancesFrom? ids' = some labels := by
  intro g starts
  have hg : g.Valid := (Graph.valid_run steps).1
  have hstarts : ∀ i ∈ starts, i < g.size := by
    intro i hi
    obtain ⟨k, hk, rfl⟩ := List.mem_map.1 hi
    have hk' : 0 ≤ k ∧ k < (g.size : Int) := hids k hk
    omega
  have hfrom : ∀ (g' : Graph) (ids' : List Int), g'.size = g.size → (∀ i, i ∈ ids' ↔ i ∈ ids) →
      g'.distancesFrom? ids' = some (g'.distances (ids'.map Int.toNat)) := by
    intro g' ids' hsize hsame
    refine if_pos (List.all_eq_true.2 fun i hi => ?_)
    have hi' : 0 ≤ i ∧ i < (g.size : Int) := hids i ((hsame i).1 hi)
    simp [hsize, hi'.1, hi'.2]
  refine ⟨g.distances starts, hfrom g ids rfl fun _ => Iff.rfl, hg.length_distances hstarts,
    fun v d => hg.getElem?_distances hstarts, fun v => hg.getElem?_distances_none hstarts, ?_⟩
  intro steps' ids' g' hsize htouch hsame
  have hsame' : ∀ i, i ∈ ids'.map Int.toNat ↔ i ∈ starts := by
    intro i
    simp only [starts, List.mem_map, hsame]
  rw [hfrom g' ids' hsize hsame]
  exact congrArg some (hg.distances_congr (Graph.valid_run steps').1 hstarts hsize htouch hsame')

/-- Two nodes that call each other, one of them itself as well, and a node apart, from a node that is given twice. -/
theorem Graph.distances_exact_of_mutual_calls :
    let a : Name := [.char 'A']
    let b : Name := [.char 'B']
    let c : Name := [.char 'C']
    let steps : List GraphStep := [.caller a, .callee 0 b, .callee 0 a, .caller b, .callee 1 a, .caller c]
    let g := (Graph.run {} steps).1
    (∀ i ∈ [(1 : Int), 1], 0 ≤ i ∧ i < (g.size : Int)) ∧
      g.distancesFrom? [1, 1] = some [some 1, some 0, none] ∧
      IsLeast {n | Reaches g.Touches [1, 1] n 0} 1 ∧ ∀ n, ¬ Reaches g.Touches [1, 1] n 2 := by
  intro a b c steps g
  have hids : ∀ i ∈ [(1 : Int), 1], 0 ≤ i ∧ i < (g.size : Int) := by decide
  obtain ⟨labels, hlabels, -, hleast, hnone, -⟩ := Graph.distances_exact steps [1, 1] hids
  have heq : g.distancesFrom? [1, 1] = some [some 1, some 0, none] := by decide +kernel
  obtain rfl : labels = [some 1, some 0, none] := Option.some.inj (hlabels.symm.trans heq)
  exact ⟨hids, heq, (hleast 0 1).1 rfl, (hnone 2 (by decide)).1 rfl⟩

end CallCoupling
