import CallCoupling.Proofs.Coupling.Operations
import CallCoupling.Proofs.Coupling.Table

/-!
# The couplings of a table are ranked

The pairs of a table come in two steps: the cells that are not zero are read off row by row, on and above the
diagonal, and then they are sorted by strength. The first step already gives every coupling once, in the order of
its place (`Table.pairwise_cells`). The sort is stable, so among equals this order is still there afterwards
(`pairwise_mergeSort_and`).

`Table.Ranking` says what that makes of a list of pairs, without speaking of sorting. It leaves no choice: of two
lists that rank the couplings of a table, both have the same pairs in an order that is strict, so they are equal
(`Table.Ranking.unique`).
-/

set_option autoImplicit false

namespace CallCoupling

/-- The place of a pair in the table, ordered by row and then by column. -/
def Table.place (t : Table) (p : Pair) : Nat ×ₗ Nat := toLex (t.labels.idxOf p.a, t.labels.idxOf p.b)

/-- **The list ranks the couplings of the table**: every cell on or above the diagonal that is not zero gives one
    pair, the strongest come first, and pairs of equal strength come by their place. -/
structure Table.Ranking (t : Table) (ranked : List Pair) : Prop where
  once : ∀ (i j : Nat) (a b : Name) (v : Nat), i ≤ j → t.labels[i]? = some a → t.labels[j]? = some b →
    t.at? i j = some v → v ≠ 0 → ranked.count ⟨a, b, v⟩ = 1
  only : ∀ p ∈ ranked, ∃ i j v : Nat, i ≤ j ∧ t.labels[i]? = some p.a ∧ t.labels[j]? = some p.b ∧
    t.at? i j = some v ∧ v ≠ 0 ∧ p.strength = v
  strongest : ranked.Pairwise fun p q => q.strength ≤ p.strength
  ties : ranked.Pairwise fun p q => p.strength = q.strength → t.place p < t.place q

/-! ## 1. Stable sorting -/

/-- **Sorting keeps the order among equals**: what is known of earlier and later items of a list is known of them
    afterwards, if neither of the two is less than the other. -/
theorem pairwise_mergeSort_and {α : Type} {before : α → α → Prop} {l : List α} (le : α → α → Bool)
    (htrans : ∀ a b c, le a b → le b c → le a c) (htotal : ∀ a b, le a b || le b a) (hl : l.Pairwise before) :
    (l.mergeSort le).Pairwise fun a b => le a b ∧ (le b a → before a b) := by
  -- Items with their places, sorted by place among equals, are the sorted items.
  have hsorted := List.pairwise_mergeSort (List.zipIdxLE_trans htrans) (List.zipIdxLE_total htotal) l.zipIdx
  have hnodup : (l.zipIdx.mergeSort (List.zipIdxLE le)).Nodup := by
    refine (List.mergeSort_perm _ _).nodup_iff.2 (List.Nodup.of_map Prod.snd ?_)
    rw [List.zipIdx_map_snd]
    exact List.nodup_range'
  rw [← List.mergeSort_zipIdx, List.pairwise_map]
  refine (hsorted.and hnodup).imp_of_mem ?_
  rintro ⟨a, i⟩ ⟨b, j⟩ ha hb ⟨hle, hne⟩
  have hi := List.mk_mem_zipIdx_iff_getElem?.1 (List.mem_mergeSort.1 ha)
  have hj := List.mk_mem_zipIdx_iff_getElem?.1 (List.mem_mergeSort.1 hb)
  unfold List.zipIdxLE at hle
  split at hle
  · rename_i hab
    refine ⟨hab, fun hba => ?_⟩
    have hij : i ≤ j := by simpa [hba] using hle
    have hlt : i < j := by
      refine lt_of_le_of_ne hij ?_
      rintro rfl
      exact hne (by rw [Option.some.inj (hi.symm.trans hj)])
    obtain ⟨hilt, rfl⟩ := List.getElem?_eq_some_iff.1 hi
    obtain ⟨hjlt, rfl⟩ := List.getElem?_eq_some_iff.1 hj
    exact List.pairwise_iff_getElem.1 hl i j hilt hjlt hlt
  · cases hle

/-! ## 2. The order of the cells -/

theorem idxOf_of_getElem? {labels : List Name} (hlabels : labels.Nodup) {a : Name} {i : Nat}
    (hi : labels[i]? = some a) : labels.idxOf a = i := by
  obtain ⟨hlt, rfl⟩ := List.getElem?_eq_some_iff.1 hi
  exact hlabels.idxOf_getElem i hlt

/-- Along a row, columns ascend. -/
theorem Table.pairwise_rowPairs {labels : List Name} (hlabels : labels.Nodup) (i : Nat) (a : Name)
    (row : List Nat) : (Table.rowPairs labels i a row).Pairwise fun p q =>
      p.a = q.a ∧ labels.idxOf p.b < labels.idxOf q.b := by
  have hzip : (labels.zip row).Pairwise fun x y => labels.idxOf x.1 < labels.idxOf y.1 := by
    refine List.pairwise_iff_getElem.2 fun j k hj hk hjk => ?_
    rw [List.getElem_zip, List.getElem_zip, hlabels.idxOf_getElem, hlabels.idxOf_getElem]
    exact hjk
  refine List.pairwise_filterMap.2 ((hzip.drop (i := i)).imp ?_)
  rintro ⟨b, v⟩ ⟨c, w⟩ hlt p hp q hq
  have hpair : p.a = a ∧ p.b = b := by
    dsimp only at hp
    split at hp
    · cases hp
    · cases hp
      exact ⟨rfl, rfl⟩
  have hpair' : q.a = a ∧ q.b = c := by
    dsimp only at hq
    split at hq
    · cases hq
    · cases hq
      exact ⟨rfl, rfl⟩
  rw [hpair.1, hpair.2, hpair'.1, hpair'.2]
  exact ⟨rfl, hlt⟩

/-- **Cells are read in the order of their place.** -/
theorem Table.pairwise_cells {t : Table} (ht : t.labels.Nodup) :
    t.cells.Pairwise fun p q => t.place p < t.place q := by
  refine List.pairwise_flatMap.2 ⟨?_, ?_⟩
  · rintro ⟨⟨a, row⟩, i⟩ -
    refine (Table.pairwise_rowPairs ht i a row).imp ?_
    rintro p q ⟨hrow, hcol⟩
    exact Prod.Lex.toLex_lt_toLex.2 (Or.inr ⟨by rw [hrow], hcol⟩)
  · refine List.pairwise_iff_getElem.2 fun i k hi hk hik p hp q hq => ?_
    -- The pairs of a row have its label in front.
    have hfront : ∀ {i : Nat} (hi : i < (t.labels.zip t.values).zipIdx.length) {p : Pair},
        let row := (t.labels.zip t.values).zipIdx[i]
        p ∈ Table.rowPairs t.labels row.2 row.1.1 row.1.2 → t.labels.idxOf p.a = i := by
      intro i hi p row hp
      simp only [row, List.getElem_zipIdx, List.getElem_zip] at hp
      obtain ⟨-, -, -, -, -, -, -, rfl⟩ := Table.mem_rowPairs.1 hp
      exact ht.idxOf_getElem i _
    refine Prod.Lex.toLex_lt_toLex.2 (Or.inl ?_)
    show t.labels.idxOf p.a < t.labels.idxOf q.a
    rw [hfront hi hp, hfront hk hq]
    exact hik

/-! ## 3. The ranking -/

theorem Table.pairwise_pairs {t : Table} (ht : t.labels.Nodup) :
    t.pairs.Pairwise fun p q => q.strength ≤ p.strength ∧ (p.strength = q.strength → t.place p < t.place q) := by
  have hsorted := pairwise_mergeSort_and (fun p q : Pair => p.strength ≥ q.strength)
    (by simp only [decide_eq_true_eq]; omega) (by simp only [Bool.or_eq_true, decide_eq_true_eq]; omega)
    (Table.pairwise_cells ht)
  refine hsorted.imp ?_
  rintro p q ⟨hle, hties⟩
  refine ⟨by simpa using hle, fun heq => hties ?_⟩
  simp [heq]

/-- A pair cannot stand before itself. -/
theorem Table.nodup_of_ties {t : Table} {ranked : List Pair}
    (h : ranked.Pairwise fun p q => p.strength = q.strength → t.place p < t.place q) : ranked.Nodup := by
  refine h.imp ?_
  rintro p _ hpq rfl
  exact lt_irrefl _ (hpq rfl)

/-- **A table has one ranking only.** -/
theorem Table.Ranking.unique {t : Table} {ranked ranked' : List Pair} (h : t.Ranking ranked)
    (h' : t.Ranking ranked') : ranked = ranked' := by
  have hmem : ∀ {l k : List Pair}, t.Ranking l → t.Ranking k → ∀ p ∈ l, p ∈ k := by
    rintro l k hl hk p hp
    obtain ⟨i, j, v, hij, ha, hb, hv, hpos, hstrength⟩ := hl.only p hp
    have hone := hk.once i j p.a p.b v hij ha hb hv hpos
    rw [← hstrength] at hone
    exact List.count_pos_iff.1 (by rw [hone]; exact Nat.one_pos)
  have hperm : ranked.Perm ranked' :=
    (List.perm_ext_iff_of_nodup (Table.nodup_of_ties h.ties) (Table.nodup_of_ties h'.ties)).2
      fun p => ⟨hmem h h' p, hmem h' h p⟩
  refine hperm.eq_of_pairwise ?_ (h.strongest.and h.ties) (h'.strongest.and h'.ties)
  rintro p q - - ⟨hle, hties⟩ ⟨hle', hties'⟩
  have heq : p.strength = q.strength := le_antisymm hle' hle
  exact absurd (hties heq) (hties' heq.symm).asymm

theorem Matrix.at?_table {m : Matrix} {i j : Nat} {a b : Name} (hi : m.labels[i]? = some a)
    (hj : m.labels[j]? = some b) : m.table.at? i j = some (m.strength i j) := by
  rw [Table.at?_natCast, Matrix.entry?_table,
    if_pos ⟨Matrix.lt_size_of_getElem? hi, Matrix.lt_size_of_getElem? hj⟩]

theorem Matrix.ranking_pairs {m : Matrix} (hm : m.labels.Nodup) : m.table.Ranking m.table.pairs := by
  have hpairwise := Table.pairwise_pairs (t := m.table) hm
  have hties := hpairwise.imp And.right
  refine ⟨?_, ?_, hpairwise.imp And.left, hties⟩
  · intro i j a b v hij ha hb hv hpos
    rw [Matrix.at?_table ha hb, Option.some.injEq] at hv
    refine List.count_eq_one_of_mem (Table.nodup_of_ties hties) (Matrix.mem_pairs.2 ⟨i, j, a, b, hij, ha, hb, ?_, ?_⟩)
    · exact hv ▸ hpos
    · rw [hv]
  · intro p hp
    obtain ⟨i, j, a, b, hij, ha, hb, hpos, rfl⟩ := Matrix.mem_pairs.1 hp
    exact ⟨i, j, m.strength i j, hij, ha, hb, Matrix.at?_table ha hb, hpos, rfl⟩

/-- A ranking has one pair for two types, whichever of them comes first. -/
theorem Table.Ranking.apart {t : Table} {ranked : List Pair} (ht : t.labels.Nodup) (h : t.Ranking ranked) :
    ranked.Pairwise fun p q => s(p.a, p.b) ≠ s(q.a, q.b) := by
  refine (Table.nodup_of_ties h.ties).imp_of_mem ?_
  rintro ⟨a, b, x⟩ ⟨c, d, y⟩ hp hq hne heq
  obtain ⟨i, j, v, hij, ha, hb, hv, -, hx⟩ := h.only _ hp
  obtain ⟨k, l, w, hkl, hc, hd, hw, -, hy⟩ := h.only _ hq
  dsimp only at ha hb hx hc hd hy heq
  -- Either way the two pairs stand at the same place.
  have hsame : i = k ∧ j = l := by
    rcases Sym2.eq_iff.1 heq with ⟨rfl, rfl⟩ | ⟨rfl, rfl⟩
    · exact ⟨(idxOf_of_getElem? ht ha).symm.trans (idxOf_of_getElem? ht hc),
        (idxOf_of_getElem? ht hb).symm.trans (idxOf_of_getElem? ht hd)⟩
    · have hil : i = l := (idxOf_of_getElem? ht ha).symm.trans (idxOf_of_getElem? ht hd)
      have hjk : j = k := (idxOf_of_getElem? ht hb).symm.trans (idxOf_of_getElem? ht hc)
      omega
  obtain ⟨rfl, rfl⟩ := hsame
  obtain rfl : a = c := Option.some.inj (ha.symm.trans hc)
  obtain rfl : b = d := Option.some.inj (hb.symm.trans hd)
  obtain rfl : v = w := Option.some.inj (hv.symm.trans hw)
  exact hne (by rw [hx, hy])

/-- **The pairs of a table are the ranking of its couplings**, for every matrix that operations lead to: they rank
    them, nothing else does, no two pairs are of the same two types, and a pair is of a type with itself exactly if
    it stands on the diagonal. -/
theorem Table.pairs_ranking (labels : List Name) (steps : List MatrixStep) :
    let t := ((Matrix.ofLabels labels).run steps).1.table
    t.labels.Nodup ∧ (∀ ranked, t.Ranking ranked ↔ ranked = t.pairs) ∧
      (t.pairs.Pairwise fun p q => s(p.a, p.b) ≠ s(q.a, q.b)) ∧
      ∀ p ∈ t.pairs, ∀ i j : Nat, t.labels[i]? = some p.a → t.labels[j]? = some p.b → (p.a = p.b ↔ i = j) := by
  intro t
  have ht : t.labels.Nodup := ((Matrix.logs_ofLabels labels).run steps).counts.indexed.nodup
  have hranking : t.Ranking t.pairs := Matrix.ranking_pairs ht
  refine ⟨ht, fun ranked => ⟨fun h => h.unique hranking, fun h => h ▸ hranking⟩, hranking.apart ht, ?_⟩
  intro p _ i j ha hb
  constructor
  · intro heq
    rw [heq] at ha
    exact (idxOf_of_getElem? ht ha).symm.trans (idxOf_of_getElem? ht hb)
  · rintro rfl
    exact Option.some.inj (ha.symm.trans hb)

/-- Two couplings of the same strength, below a stronger one of a type with itself. -/
example :
    let x : Name := [.char 'X']
    let y : Name := [.char 'Y']
    let z : Name := [.char 'Z']
    let m := ((Matrix.ofLabels [x, y, z]).run [.increment z y, .increment y x, .increment z z, .increment z z]).1
    m.table.pairs = [⟨z, z, 2⟩, ⟨x, y, 1⟩, ⟨y, z, 1⟩] := by
  cbv

end CallCoupling
