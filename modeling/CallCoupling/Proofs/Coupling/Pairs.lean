import CallCoupling.Coupling.Table
import CallCoupling.Proofs.Coupling.Matrix

/-!
# The pairs of a table hold all counts

A table folds a matrix along its diagonal: two different types get the counts of both directions, and a type
with itself gets its own count once. The pairs are read off one half of it, diagonal included, without the
zeros, and are sorted. No count gets lost on the way and none is taken twice, so the strengths of the pairs add
up to the total of the matrix (`Matrix.Shows.sum_strength`).

The folding is a fact about sums over a square (`sum_folded`), by induction on its side: one more side brings
one more column and row, which the fold puts into the column.
-/

set_option autoImplicit false

namespace CallCoupling

/-! ## 1. Folding a square -/

/-- One half of a square, with the other half folded onto it. -/
def folded (c : Nat → Nat → Nat) (i j : Nat) : Nat := if i = j then c i i else c i j + c j i

theorem drop_range_succ {i n : Nat} (hi : i ≤ n) :
    (List.range (n + 1)).drop i = (List.range n).drop i ++ [n] := by
  rw [List.range_succ, List.drop_append_of_le_length (by simpa using hi)]

/-- **What is folded adds up to the whole square.** -/
theorem sum_folded (c : Nat → Nat → Nat) (n : Nat) :
    ((List.range n).map fun i => (((List.range n).drop i).map (folded c i)).sum).sum =
      ((List.range n).map fun i => ((List.range n).map (c i)).sum).sum := by
  induction n with
  | zero => rfl
  | succ n ih =>
    -- The last column of the half is the last column and the last row of the square, less the corner.
    have hcolumn : ((List.range n).map fun i => folded c i n).sum =
        ((List.range n).map fun i => c i n).sum + ((List.range n).map (c n)).sum := by
      rw [← List.sum_map_add]
      refine congrArg List.sum (List.map_congr_left fun i hi => ?_)
      rw [folded, if_neg (List.mem_range.1 hi).ne]
    have hhalf : ((List.range n).map fun i => (((List.range (n + 1)).drop i).map (folded c i)).sum).sum =
        ((List.range n).map fun i => (((List.range n).drop i).map (folded c i)).sum).sum +
          ((List.range n).map fun i => folded c i n).sum := by
      rw [← List.sum_map_add]
      refine congrArg List.sum (List.map_congr_left fun i hi => ?_)
      rw [drop_range_succ (List.mem_range.1 hi).le, List.map_append, List.sum_append]
      simp
    have hcorner : (((List.range (n + 1)).drop n).map (folded c n)).sum = c n n := by
      rw [drop_range_succ le_rfl, List.drop_of_length_le (by simp)]
      simp [folded]
    have hsquare : ((List.range n).map fun i => ((List.range (n + 1)).map (c i)).sum).sum =
        ((List.range n).map fun i => ((List.range n).map (c i)).sum).sum +
          ((List.range n).map fun i => c i n).sum := by
      rw [← List.sum_map_add]
      exact congrArg List.sum (List.map_congr_left fun i _ => List.sum_range_succ (c i) n)
    rw [List.sum_range_succ, List.sum_range_succ, hhalf, hcorner, hcolumn, ih, hsquare,
      List.sum_range_succ (c n)]
    omega

/-! ## 2. The table of a matrix -/

theorem map_eq_map_range {α β : Type} {l : List α} {f : α → β} {g : Nat → β}
    (h : ∀ i a, l[i]? = some a → f a = g i) : l.map f = (List.range l.length).map g := by
  apply List.ext_getElem?
  intro i
  rw [List.getElem?_map, List.getElem?_map]
  cases hi : l[i]? with
  | none =>
    rw [List.getElem?_eq_none (by simpa using hi)]
    rfl
  | some a =>
    rw [List.getElem?_range (List.getElem?_eq_some_iff.1 hi).1, Option.map_some, Option.map_some, h i a hi]

/-- The counts of a matrix are its cells. -/
theorem Matrix.Shows.counts_eq_cells {m : Matrix} {f : Name → Name → Nat} (hm : m.Shows f) :
    m.counts = (List.range m.size).map fun i => (List.range m.size).map (m.cell i) := by
  rw [hm.counts]
  exact map_eq_map_range fun i a hi => map_eq_map_range fun j b hj => (hm.cell hi hj).symm

theorem Matrix.Shows.total_eq_cells {m : Matrix} {f : Name → Name → Nat} (hm : m.Shows f) :
    m.total = ((List.range m.size).map fun i => ((List.range m.size).map (m.cell i)).sum).sum := by
  show m.counts.flatten.sum = _
  rw [hm.counts_eq_cells, List.sum_flatten, List.map_map]
  rfl

theorem Table.sum_nonzero (a : Name) (entries : List (Name × Nat)) :
    ((entries.filterMap fun (b, v) => if v = 0 then none else some { a, b, strength := v : Pair }).map
      Pair.strength).sum = ((entries.map Prod.snd).sum : Nat) := by
  induction entries with
  | nil => rfl
  | cons entry entries ih =>
    obtain ⟨b, v⟩ := entry
    rw [List.filterMap_cons, List.map_cons, List.sum_cons, Nat.cast_add, ← ih]
    by_cases hv : v = 0
    · simp [hv]
    · simp [hv]

/-- The pairs of a row are its cells from the diagonal on; a zero adds nothing. -/
theorem Table.sum_rowPairs {labels : List Name} {row : List Nat} (hlength : row.length = labels.length)
    (i : Nat) (a : Name) :
    ((Table.rowPairs labels i a row).map Pair.strength).sum = ((row.drop i).sum : Nat) := by
  rw [Table.rowPairs, Table.sum_nonzero, List.map_drop, List.map_snd_zip (by omega)]

/-- The cells of a table, row by row. -/
theorem Matrix.cells_table (m : Matrix) :
    m.table.cells = ((List.range m.size).map fun i =>
      Table.rowPairs m.labels i (m.labels[i]?.getD []) ((List.range m.size).map (m.strength i))).flatten := by
  have hlength : (m.table.labels.zip m.table.values).zipIdx.length = m.size := by
    simp [Matrix.table, Matrix.size]
  rw [Table.cells, List.flatMap_def, ← hlength]
  refine congrArg List.flatten (map_eq_map_range ?_)
  rintro i ⟨⟨a, row⟩, k⟩ hentry
  rw [List.getElem?_zipIdx] at hentry
  obtain ⟨⟨b, line⟩, hzip, heq⟩ := Option.map_eq_some_iff.1 hentry
  obtain ⟨ha, hline⟩ := List.getElem?_zip_eq_some.1 hzip
  obtain ⟨hi, hvalue⟩ := List.getElem?_eq_some_iff.1 hline
  simp only [Matrix.table, List.getElem_map, List.getElem_range] at ha hvalue
  cases heq
  simp only [ha, Option.getD_some, hlength, Nat.zero_add, hvalue]
  rfl

theorem Matrix.sum_cells_table (m : Matrix) :
    (m.table.cells.map Pair.strength).sum =
      (((List.range m.size).map fun i =>
        (((List.range m.size).drop i).map (m.strength i)).sum).sum : Nat) := by
  rw [Matrix.cells_table, List.map_flatten, List.sum_flatten, List.map_map, List.map_map, Nat.cast_list_sum,
    List.map_map]
  refine congrArg List.sum (List.map_congr_left fun i _ => ?_)
  have hlength : ((List.range m.size).map (m.strength i)).length = m.labels.length := by simp [Matrix.size]
  have hrow := Table.sum_rowPairs hlength i (m.labels[i]?.getD [])
  rw [← List.map_drop] at hrow
  exact hrow

/-- **The strengths of the pairs add up to all counts.** -/
theorem Matrix.Shows.sum_strength {m : Matrix} {f : Name → Name → Nat} (hm : m.Shows f) :
    (m.table.pairs.map Pair.strength).sum = m.total := by
  have hsorted : (m.table.pairs.map Pair.strength).sum = (m.table.cells.map Pair.strength).sum :=
    ((List.mergeSort_perm _ _).map Pair.strength).sum_eq
  rw [hsorted, Matrix.sum_cells_table, hm.total_eq_cells]
  exact congrArg Nat.cast (sum_folded m.cell m.size)

end CallCoupling
