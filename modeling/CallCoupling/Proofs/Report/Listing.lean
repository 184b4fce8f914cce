import CallCoupling.Report.Summary
import CallCoupling.Proofs.Coupling.Ranking
import CallCoupling.Proofs.Report.Printing

/-!
# Two views of the strongest couplings

The report and the console summary both list the strongest couplings of a table, each in its own words, and both
cut the list at the number that is wanted. What they list is one thing, `Table.shown`: the beginning of the
ranking of all couplings. The rest of either text does not depend on that number, so the list is the part of it
that does.

The ranking is by strength, so nothing that is cut off is stronger than what is shown (`Table.Ranking.shown_le`).
A coupling stands for a cell of the table (`Table.StandsAt`), and the two lines that show it are told by that
cell alone: a cell on the diagonal is marked in both.
-/

set_option autoImplicit false

namespace CallCoupling

/-- The couplings that are shown if `top` are wanted: the first `top`, or all if `top` is not positive. -/
def Table.shown (t : Table) (top : Int) : List Pair :=
  t.pairs.take (if 0 < top then min top.toNat t.pairs.length else t.pairs.length)

/-- The pair is what a cell on or above the diagonal says, and the cell is not zero. -/
structure Table.StandsAt (t : Table) (p : Pair) (i j : Nat) : Prop where
  order : i ≤ j
  row : t.labels[i]? = some p.a
  column : t.labels[j]? = some p.b
  value : ∃ v : Nat, t.at? i j = some v ∧ v ≠ 0 ∧ p.strength = v

/-- The list of couplings of a summary. -/
def Summary.listing (colours : Bool) (shown : List Pair) : Loose :=
  if shown = [] then Paint.green.apply colours "No coupling between project types" ++ Loose.ofString "\n"
  else
    Paint.bold.apply colours "STRONGEST COUPLINGS:" ++ Loose.ofString "\n" ++
      shown.flatMap (Summary.pairLine colours)

/-! ## 1. What is shown -/

theorem Table.strongest_pairs (t : Table) (top : Int) : strongest top t.pairs = t.shown top := by
  unfold strongest Table.shown
  by_cases htop : 0 < top
  · rw [if_pos htop, if_pos htop, List.take_eq_take_iff]
    omega
  · rw [if_neg htop, if_neg htop, List.take_length]

theorem Table.length_shown (t : Table) (top : Int) :
    (t.shown top).length = if 0 < top then min top.toNat t.pairs.length else t.pairs.length := by
  rw [Table.shown, List.length_take]
  split <;> omega

/-- At least one coupling is shown if there is one. -/
theorem Table.shown_eq_nil_iff (t : Table) (top : Int) : t.shown top = [] ↔ t.pairs = [] := by
  rw [← List.length_eq_zero_iff, Table.length_shown, ← List.length_eq_zero_iff]
  split <;> omega

/-- What is not shown is no stronger than what is. -/
theorem Table.Ranking.shown_le {t : Table} (h : t.Ranking t.pairs) {top : Int} {p q : Pair}
    (hp : p ∈ t.shown top) (hq : q ∈ t.pairs) (hout : q ∉ t.shown top) : q.strength ≤ p.strength := by
  have hsplit := h.strongest
  unfold Table.shown at hp hout
  rw [← List.take_append_drop (if 0 < top then min top.toNat t.pairs.length else t.pairs.length) t.pairs]
    at hq hsplit
  obtain ⟨-, -, hacross⟩ := List.pairwise_append.1 hsplit
  rcases List.mem_append.1 hq with hshown | hcut
  · exact absurd hshown hout
  · exact hacross p hp q hcut

theorem Matrix.standsAt_of_mem_pairs {m : Matrix} {p : Pair} (hp : p ∈ m.table.pairs) :
    ∃ i j, m.table.StandsAt p i j := by
  obtain ⟨i, j, a, b, hij, ha, hb, hzero, rfl⟩ := Matrix.mem_pairs.1 hp
  exact ⟨i, j, hij, ha, hb, m.strength i j, Matrix.at?_table ha hb, hzero, rfl⟩

/-- **There are no couplings exactly if all cells are zero.** -/
theorem Matrix.pairs_table_eq_nil_iff (m : Matrix) :
    m.table.pairs = [] ↔ ∀ i j v : Nat, m.table.at? i j = some v → v = 0 := by
  constructor
  · intro hnil i j v hv
    rw [Table.at?_natCast, Matrix.entry?_table] at hv
    split at hv
    · next hin =>
      cases hv
      by_contra hzero
      -- One of the two cells of a coupling is on or above the diagonal.
      rcases Nat.le_total i j with hij | hji
      · have hmem := Matrix.mem_pairs.2
          ⟨i, j, _, _, hij, List.getElem?_eq_getElem hin.1, List.getElem?_eq_getElem hin.2, hzero, rfl⟩
        rw [hnil] at hmem
        cases hmem
      · rw [Matrix.strength_comm] at hzero
        have hmem := Matrix.mem_pairs.2
          ⟨j, i, _, _, hji, List.getElem?_eq_getElem hin.2, List.getElem?_eq_getElem hin.1, hzero, rfl⟩
        rw [hnil] at hmem
        cases hmem
    · cases hv
  · intro hzero
    refine List.eq_nil_iff_forall_not_mem.2 fun p hp => ?_
    obtain ⟨i, j, hcell⟩ := Matrix.standsAt_of_mem_pairs hp
    obtain ⟨v, hv, hne, -⟩ := hcell.value
    exact hne (hzero i j v hv)

/-! ## 2. The two texts -/

theorem Summary.couplings_eq (s : Summary) (t : Table) (top : Int) (colours : Bool) :
    { s with pairs := t.pairs }.couplings top colours = Summary.listing colours (t.shown top) := by
  have hempty : (t.pairs.isEmpty = true) = (t.shown top = []) := by
    rw [List.isEmpty_iff, Table.shown_eq_nil_iff]
  unfold Summary.couplings Summary.listing
  simp only [hempty, Table.strongest_pairs, Loose.join]
  simp

theorem Table.StandsAt.diagonal_iff {t : Table} (ht : t.labels.Nodup) {p : Pair} {i j : Nat}
    (h : t.StandsAt p i j) : p.a = p.b ↔ i = j := by
  constructor
  · intro heq
    exact (idxOf_of_getElem? ht (heq ▸ h.row)).symm.trans (idxOf_of_getElem? ht h.column)
  · rintro rfl
    exact Option.some.inj (h.row.symm.trans h.column)

/-- **The report and the console list the same couplings of a table, and no stronger one is left out.** Both list
    the first of the ranking, as many as are wanted; each says so if there are none, that is if all cells are zero;
    and the line of a coupling, numbered in the report, is marked exactly if its cell is on the diagonal. -/
theorem Table.listed_alike (labels : List Name) (steps : List MatrixStep) :
    let t := ((Matrix.ofLabels labels).run steps).1.table
    (∀ top : Int,
        t.shown top <+: t.pairs ∧
        (t.shown top).length = (if 0 < top then min top.toNat t.pairs.length else t.pairs.length) ∧
        (∀ p ∈ t.shown top, ∀ q ∈ t.pairs, q ∉ t.shown top → q.strength ≤ p.strength) ∧
        (t.shown top = [] ↔ ∀ i j v : Nat, t.at? i j = some v → v = 0)) ∧
      (∀ (r : Report) (other : Option (List Name × List MatrixStep)), ∃ before after, ∀ top : Int,
        ∃ w, { r with table := some t, matrix := other.map Matrix.made, top }.printTo none = (.ok (), w) ∧
          w.output.accepted.toList = before ++ Report.listing (t.shown top) ++ after) ∧
      (∀ (s : Summary) (colours : Bool), ∃ before after, ∀ top : Int,
        { s with pairs := t.pairs }.text top colours =
          before ++ Summary.listing colours (t.shown top) ++ after) ∧
      ∀ p ∈ t.pairs, ∃ i j, t.StandsAt p i j ∧ ∀ (place : Nat) (colours : Bool),
        Report.pairLine place p =
            (let strength := Loose.ofString (Integer.text p.strength ++ "\n")
            if i = j then Loose.join [toString place ++ ". `", p.a, "` (self) ", strength]
            else Loose.join [toString place ++ ". `", p.a, "` / `", p.b, "` ", strength]) ∧
          Summary.pairLine colours p =
            Loose.join
              [Paint.cyan.apply colours
                (if i = j then Loose.join ["  ", p.a, " (self)"] else Loose.join ["  ", p.a, " <-> ", p.b]),
                "  " ++ Integer.text p.strength ++ "\n"] := by
  intro t
  have ht : t.labels.Nodup := ((Matrix.logs_ofLabels labels).run steps).counts.indexed.nodup
  refine ⟨?_, ?_, ?_, ?_⟩
  · intro top
    refine ⟨List.take_prefix _ _, t.length_shown top, ?_, ?_⟩
    · intro p hp q hq hout
      exact (Matrix.ranking_pairs ht).shown_le hp hq hout
    · rw [Table.shown_eq_nil_iff]
      exact Matrix.pairs_table_eq_nil_iff _
  · intro r other
    have hwhole : { r with table := some t, matrix := other.map Matrix.made }.Whole t :=
      Report.whole_table _ Matrix.square_made
    obtain ⟨before, after, hprints⟩ := hwhole.exists_prints_sections
    refine ⟨before, after, ?_⟩
    intro top
    obtain ⟨haccepted, -, hfine⟩ := Writer.putAll_unlimited (w := {}) rfl rfl
      (before ++ (Report.listing (strongest top t.pairs) ++ after))
    refine ⟨_, (Report.printTo_of_prints rfl (hprints top) none).trans ?_, haccepted.trans ?_⟩
    · exact Prod.ext (if_neg (by simpa using hfine)) rfl
    · rw [t.strongest_pairs, List.append_assoc]
      rfl
  · intro s colours
    refine ⟨s.head colours, s.foot colours, ?_⟩
    intro top
    rw [← Summary.couplings_eq]
    rfl
  · intro p hp
    obtain ⟨i, j, hcell⟩ := Matrix.standsAt_of_mem_pairs hp
    refine ⟨i, j, hcell, ?_⟩
    intro place colours
    have hdiagonal := hcell.diagonal_iff ht
    constructor
    · exact if_congr hdiagonal rfl rfl
    · rw [Summary.pairLine, if_congr hdiagonal rfl rfl]

end CallCoupling
