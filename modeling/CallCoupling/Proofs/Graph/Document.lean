import CallCoupling.Graph.Build
import CallCoupling.Graph.Document
import CallCoupling.Proofs.Graph.Invariant

/-!
# What a document shows of its graph

A document has one record for each node and one for each link. The nodes are read off the names, so there is
nothing to prove about their number; the links are read off the callers, one by one, and this gives each link
once only if no caller stands in the table of links twice. `Graph.Keyed` is that, and building a graph keeps
it: an entry is opened only where there is none.

The records that say that their node is part of the project are as many as there are different callers
(`Graph.Shows.length_own`).
-/

set_option autoImplicit false

namespace CallCoupling

/-! ## 1. Callers have one entry -/

/-- **No caller has two entries in the table of links.** -/
def Graph.Keyed (g : Graph) : Prop := (g.links.map Prod.fst).Nodup

theorem Graph.keyed_empty : Graph.Keyed {} := List.nodup_nil

theorem Graph.links_ensure (g : Graph) (a : Name) : (g.ensure a).1.links = g.links := by
  unfold Graph.ensure
  split <;> rfl

theorem Graph.Keyed.openLinks {g : Graph} (hg : g.Keyed) (i : Nat) : (g.openLinks i).Keyed := by
  unfold Graph.openLinks
  cases hi : g.links.lookup i with
  | some targets => exact hg
  | none =>
    have hnew : i ∉ g.links.map Prod.fst := by
      intro hmem
      obtain ⟨link, hlink, rfl⟩ := List.mem_map.1 hmem
      have hne := List.lookup_eq_none_iff.1 hi link hlink
      simp at hne
    exact List.nodup_cons.2 ⟨hnew, hg⟩

theorem Graph.Keyed.link {g : Graph} (hg : g.Keyed) (i j : Nat) : (g.link i j).Keyed := by
  have hkeys : (g.link i j).links.map Prod.fst = g.links.map Prod.fst := by
    rw [Graph.link, List.map_map]
    refine List.map_congr_left fun entry _ => ?_
    simp only [Function.comp_apply]
    split <;> rfl
  rw [Graph.Keyed, hkeys]
  exact hg

theorem Graph.Keyed.addCaller {g : Graph} (hg : g.Keyed) (a : Name) : (g.addCaller a).1.Keyed := by
  unfold Graph.addCaller
  split
  · exact hg
  · refine Graph.Keyed.openLinks ?_ _
    show (((g.ensure a).1.links).map Prod.fst).Nodup
    rw [Graph.links_ensure]
    exact hg

theorem Graph.Keyed.addCallee {g : Graph} (hg : g.Keyed) (caller : Int) (a : Name) :
    (g.addCallee caller a).1.Keyed := by
  unfold Graph.addCallee
  split
  · exact hg
  · split
    · exact hg
    · refine Graph.Keyed.link ?_ _ _
      show (((g.ensure a).1.links).map Prod.fst).Nodup
      rw [Graph.links_ensure]
      exact hg

section

variable {P C ε : Type} {children : P → List C} {parentName : P → Except ε Name}
  {childName : C → Except ε Name}

theorem Graph.Keyed.addChildren {caller : Nat} {parent : Name} (cs : List C) {g g' : Graph}
    (hg : g.Keyed) (h : Graph.addChildren childName caller parent cs g = .ok g') : g'.Keyed := by
  induction cs generalizing g with
  | nil => exact Except.ok.inj h ▸ hg
  | cons c cs ih =>
    unfold Graph.addChildren at h
    cases hc : childName c with
    | error e => simp [hc] at h
    | ok b =>
      have hstep := hg.addCallee caller b
      cases hadd : g.addCallee caller b with
      | mk g₁ answer =>
        rw [hadd] at hstep
        cases answer with
        | error e => simp [hc, hadd] at h
        | ok j =>
          simp only [hc, hadd] at h
          exact ih hstep h

theorem Graph.Keyed.addParents (ps : List P) {g g' : Graph} (hg : g.Keyed)
    (h : Graph.addParents children parentName childName ps g = .ok g') : g'.Keyed := by
  induction ps generalizing g with
  | nil => exact Except.ok.inj h ▸ hg
  | cons p ps ih =>
    unfold Graph.addParents at h
    cases hp : parentName p with
    | error e => simp [hp] at h
    | ok a =>
      have hstep := hg.addCaller a
      cases hadd : g.addCaller a with
      | mk g₁ answer =>
        rw [hadd] at hstep
        cases answer with
        | error e => simp [hp, hadd] at h
        | ok i =>
          cases hchildren : Graph.addChildren childName i a (children p) g₁ with
          | error e => simp [hp, hadd, hchildren] at h
          | ok g₂ =>
            simp only [hp, hadd, hchildren] at h
            exact ih (hstep.addChildren _ hchildren) h

/-- A graph that was built has one entry for each caller. -/
theorem Graph.keyed_of_build {parents : List P} {g : Graph}
    (h : Graph.build parents children parentName childName = .ok g) : g.Keyed :=
  Graph.keyed_empty.addParents parents h

end

/-! ## 2. Links -/

theorem insertId_perm {x : Nat} {ys : List Nat} (hx : x ∉ ys) : (insertId x ys).Perm (x :: ys) := by
  induction ys with
  | nil => exact List.Perm.refl _
  | cons y ys ih =>
    rw [List.mem_cons, not_or] at hx
    obtain ⟨hxy, hrest⟩ := hx
    rw [insertId, if_neg hxy]
    split
    · exact List.Perm.refl _
    · exact ((ih hrest).cons y).trans (List.Perm.swap x y ys)

theorem foldr_insertId_perm {links : List (Nat × List Nat)} (hkeys : (links.map Prod.fst).Nodup) :
    (links.foldr (fun link ids => insertId link.1 ids) []).Perm (links.map Prod.fst) := by
  induction links with
  | nil => exact List.Perm.refl _
  | cons link links ih =>
    obtain ⟨hnew, hrest⟩ := List.nodup_cons.1 hkeys
    have hperm := ih hrest
    exact (insertId_perm fun hmem => hnew (hperm.mem_iff.1 hmem)).trans (hperm.cons link.1)

theorem lookup_of_mem {links : List (Nat × List Nat)} (hkeys : (links.map Prod.fst).Nodup) {i : Nat}
    {targets : List Nat} (h : (i, targets) ∈ links) : links.lookup i = some targets := by
  induction links with
  | nil => cases h
  | cons link links ih =>
    obtain ⟨hnew, hrest⟩ := List.nodup_cons.1 hkeys
    rw [List.lookup_cons]
    obtain rfl | hmem := List.mem_cons.1 h
    · simp
    · have hne : i ≠ link.1 := by
        rintro rfl
        exact hnew (List.mem_map.2 ⟨_, hmem, rfl⟩)
      rw [beq_eq_false_iff_ne.2 hne]
      exact ih hrest hmem

/-- **A document has one record for each link.** -/
theorem Graph.Keyed.length_linkRecords {g : Graph} (hg : g.Keyed) : g.linkRecords.length = g.linkCount := by
  have hcallers : (g.callers.map fun (i : Nat) => (g.calleesOf i).length).sum =
      ((g.links.map Prod.fst).map fun (i : Nat) => (g.calleesOf i).length).sum :=
    ((foldr_insertId_perm hg).map _).sum_eq
  have hentries : (g.links.map Prod.fst).map (fun (i : Nat) => (g.calleesOf i).length) =
      g.links.map fun link => link.2.length := by
    rw [List.map_map]
    refine List.map_congr_left fun link hlink => ?_
    have hlookup : g.links.lookup link.1 = some link.2 := lookup_of_mem hg hlink
    simp [Graph.calleesOf, hlookup]
  rw [Graph.linkRecords, List.length_flatMap]
  simp only [List.length_map]
  rw [hcallers, hentries]
  rfl

/-! ## 3. Nodes of the project -/

theorem Graph.Shows.owns_iff {g : Graph} {h : History} (hg : g.Shows h.picture) {i : Nat} {a : Name}
    (hi : g.names[i]? = some a) : g.owns i = true ↔ a ∈ h.callers := by
  rw [Graph.owns, decide_eq_true_iff, hg.stateOf_eq_confirmed, hg.mem_callers]
  constructor
  · rintro ⟨b, hb, hcaller⟩
    exact Option.some.inj (hi.symm.trans hb) ▸ hcaller
  · exact fun hcaller => ⟨a, hi, hcaller⟩

theorem Graph.Shows.map_own {g : Graph} {h : History} (hg : g.Shows h.picture) :
    g.nodeRecords.map NodeRecord.own = g.names.map fun a => decide (a ∈ h.callers) := by
  rw [Graph.nodeRecords, List.map_map]
  apply List.ext_getElem?
  intro i
  rw [List.getElem?_map, List.getElem?_map, List.getElem?_zipIdx]
  cases hi : g.names[i]? with
  | none => rfl
  | some a =>
    have howns : g.owns i = decide (a ∈ h.callers) := by
      rw [Bool.eq_iff_iff, decide_eq_true_iff]
      exact hg.owns_iff hi
    simpa using howns

/-- **The nodes of the project are as many as the different callers.** -/
theorem Graph.Shows.length_own {g : Graph} {h : History} (hg : g.Shows h.picture) :
    (g.nodeRecords.filter NodeRecord.own).length = h.callers.toFinset.card := by
  have hnames : (g.names.filter fun a => decide (a ∈ h.callers)).toFinset = h.callers.toFinset := by
    ext a
    simp only [List.mem_toFinset, List.mem_filter, decide_eq_true_eq, and_iff_right_iff_imp]
    intro ha
    rw [hg.names]
    exact List.mem_eraseDups.mpr (History.mem_names_of_mem_callers ha)
  calc (g.nodeRecords.filter NodeRecord.own).length
      = (g.nodeRecords.map NodeRecord.own).countP id := by
        rw [List.countP_map, List.countP_eq_length_filter]; rfl
    _ = (g.names.filter fun a => decide (a ∈ h.callers)).length := by
        rw [hg.map_own, List.countP_map, List.countP_eq_length_filter]; rfl
    _ = h.callers.toFinset.card := by
        rw [← hnames, List.toFinset_card_of_nodup (hg.indexed.nodup.filter _)]

end CallCoupling
