import CallCoupling.Proofs.Coupling.Pairs

/-!
# Reading a table

A table is read in three ways: by places, by names and as a list of pairs. All three come down to one function on
places, `Matrix.strength`, and so to the counts:

* at two places stands the strength of these places (`Matrix.entry?_table`), the same in both orders;
* between two *names* it is the count of a name into itself or the sum of the counts in both directions
  (`Matrix.Shows.coupling`), also for names that are no labels, whose counts are zero;
* a pair is listed exactly if it stands for two places, the first not behind the second, of a strength that is not
  zero (`Matrix.mem_pairs`).

Of a matrix that shows a function, cells and names are related by `Matrix.Shows.cell`; that the index of a matrix
and the search of a table for a label answer alike is `Matrix.Shows.findIdx?_labels`.
-/

set_option autoImplicit false

namespace CallCoupling

/-- The item at two places of a list of rows. -/
def entry? (rows : List (List Nat)) (i j : Nat) : Option Nat := (rows[i]?).bind (·[j]?)

/-! ## 1. By places -/

theorem Matrix.strength_comm (m : Matrix) (i j : Nat) : m.strength i j = m.strength j i := by
  unfold Matrix.strength
  by_cases hij : i = j
  · rw [if_pos hij, if_pos hij.symm, hij]
  · rw [if_neg hij, if_neg (Ne.symm hij), Nat.add_comm]

/-- A square given by a function holds its values, and nothing outside. -/
theorem entry?_map_range (n : Nat) (f : Nat → Nat → Nat) (i j : Nat) :
    entry? ((List.range n).map fun i => (List.range n).map (f i)) i j =
      if i < n ∧ j < n then some (f i j) else none := by
  unfold entry?
  by_cases hi : i < n
  · by_cases hj : j < n
    · simp [hi, hj]
    · simp [hi, hj]
  · simp [hi]

theorem Matrix.entry?_table (m : Matrix) (i j : Nat) :
    entry? m.table.values i j = if i < m.size ∧ j < m.size then some (m.strength i j) else none :=
  entry?_map_range m.size m.strength i j

theorem Matrix.Shows.entry?_counts {m : Matrix} {f : Name → Name → Nat} (hm : m.Shows f) (i j : Nat) :
    entry? m.counts i j = if i < m.size ∧ j < m.size then some (m.cell i j) else none := by
  rw [hm.counts_eq_cells]
  exact entry?_map_range m.size m.cell i j

theorem Table.at?_natCast (t : Table) (i j : Nat) : t.at? i j = entry? t.values i j := by
  simp [Table.at?, entry?]

/-! ## 2. By names -/

theorem Matrix.Shows.findIdx?_labels {m : Matrix} {f : Name → Name → Nat} (hm : m.Shows f) (a : Name) :
    m.labels.findIdx? (· = a) = m.index? a := by
  have hindex : m.index? a = m.labels.idxOf? a := hm.indexed.lookup_eq_idxOf? a
  rw [hindex, List.idxOf?]
  congr 1
  funext x
  rw [Bool.eq_iff_iff]
  simp

theorem Matrix.Shows.index?_eq_some {m : Matrix} {f : Name → Name → Nat} (hm : m.Shows f) {a : Name}
    {i : Nat} : m.index? a = some i ↔ m.labels[i]? = some a := hm.indexed a i

theorem Matrix.lt_size_of_getElem? {m : Matrix} {i : Nat} {a : Name} (hi : m.labels[i]? = some a) :
    i < m.size := (List.getElem?_eq_some_iff.1 hi).1

/-- Strengths between the places of two labels are those between the labels. -/
theorem Matrix.Shows.strength {m : Matrix} {f : Name → Name → Nat} (hm : m.Shows f) {a b : Name}
    {i j : Nat} (hi : m.labels[i]? = some a) (hj : m.labels[j]? = some b) :
    m.strength i j = if a = b then m.count a a else m.count a b + m.count b a := by
  have hsame : i = j ↔ a = b := by
    constructor
    · rintro rfl
      exact Option.some.inj (hi.symm.trans hj)
    · rintro rfl
      exact hm.indexed.place_unique hi hj
  have hcell : ∀ {x y : Name} {k l : Nat}, m.labels[k]? = some x → m.labels[l]? = some y →
      m.cell k l = m.count x y := by
    intro x y k l hk hl
    rw [Matrix.count, hm.index?_eq_some.2 hk, hm.index?_eq_some.2 hl]
  rw [Matrix.strength, if_congr hsame (hcell hi hi) (congrArg₂ _ (hcell hi hj) (hcell hj hi))]

/-- **The coupling of two names is what they count in both directions**, and of a name with itself what it
    counts. -/
theorem Matrix.Shows.coupling {m : Matrix} {f : Name → Name → Nat} (hm : m.Shows f) (a b : Name) :
    m.table.coupling a b = if a = b then m.count a a else m.count a b + m.count b a := by
  have hfind : ∀ x, m.table.labels.findIdx? (· = x) = m.index? x := hm.findIdx?_labels
  -- The count of a name that has no place is zero, in either direction.
  have hzero : ∀ x y, m.index? x = none → m.count x y = 0 ∧ m.count y x = 0 := by
    intro x y hx
    have hout : x ∉ m.labels := hm.indexed.lookup_eq_none.1 hx
    exact ⟨hm.count_stranger (Or.inl hout), hm.count_stranger (Or.inr hout)⟩
  unfold Table.coupling
  rw [hfind, hfind]
  cases ha : m.index? a with
  | none =>
    obtain ⟨hforward, hbackward⟩ := hzero a b ha
    simp [hforward, hbackward, (hzero a a ha).1]
  | some i =>
    cases hb : m.index? b with
    | none =>
      have hne : a ≠ b := by
        rintro rfl
        rw [ha] at hb
        cases hb
      obtain ⟨hbackward, hforward⟩ := hzero b a hb
      simp [hforward, hbackward, hne]
    | some j =>
      have hi := hm.index?_eq_some.1 ha
      have hj := hm.index?_eq_some.1 hb
      show (m.table.at? i j).getD 0 = _
      rw [Table.at?_natCast, Matrix.entry?_table,
        if_pos ⟨Matrix.lt_size_of_getElem? hi, Matrix.lt_size_of_getElem? hj⟩, Option.getD_some,
        hm.strength hi hj]

theorem Matrix.Shows.coupling_comm {m : Matrix} {f : Name → Name → Nat} (hm : m.Shows f) (a b : Name) :
    m.table.coupling a b = m.table.coupling b a := by
  rw [hm.coupling, hm.coupling]
  by_cases hab : a = b
  · rw [if_pos hab, if_pos hab.symm, hab]
  · rw [if_neg hab, if_neg (Ne.symm hab), Nat.add_comm]

/-! ## 3. As pairs -/

theorem mem_drop_zip {α β : Type} {l : List α} {k : List β} {i : Nat} {x : α × β} :
    x ∈ (l.zip k).drop i ↔ ∃ j, i ≤ j ∧ l[j]? = some x.1 ∧ k[j]? = some x.2 := by
  rw [List.mem_iff_getElem?]
  constructor
  · rintro ⟨d, hd⟩
    rw [List.getElem?_drop, List.getElem?_zip_eq_some] at hd
    exact ⟨i + d, Nat.le_add_right i d, hd⟩
  · rintro ⟨j, hij, hj⟩
    refine ⟨j - i, ?_⟩
    rw [List.getElem?_drop, Nat.add_sub_cancel' hij, List.getElem?_zip_eq_some]
    exact hj

theorem Table.mem_rowPairs {labels : List Name} {i : Nat} {a : Name} {row : List Nat} {p : Pair} :
    p ∈ Table.rowPairs labels i a row ↔
      ∃ j b v, i ≤ j ∧ labels[j]? = some b ∧ row[j]? = some v ∧ v ≠ 0 ∧ p = ⟨a, b, v⟩ := by
  rw [Table.rowPairs, List.mem_filterMap]
  constructor
  · rintro ⟨⟨b, v⟩, hmem, hpair⟩
    obtain ⟨j, hij, hb, hv⟩ := mem_drop_zip.1 hmem
    by_cases hzero : v = 0
    · simp [hzero] at hpair
    · simp only [hzero, if_false, Option.some.injEq] at hpair
      exact ⟨j, b, v, hij, hb, hv, hzero, hpair.symm⟩
  · rintro ⟨j, b, v, hij, hb, hv, hzero, rfl⟩
    exact ⟨(b, v), mem_drop_zip.2 ⟨j, hij, hb, hv⟩, by simp [hzero]⟩

/-- **The pairs are the places of some strength on and above the diagonal.** -/
theorem Matrix.mem_pairs {m : Matrix} {p : Pair} :
    p ∈ m.table.pairs ↔
      ∃ i j a b, i ≤ j ∧ m.labels[i]? = some a ∧ m.labels[j]? = some b ∧ m.strength i j ≠ 0 ∧
        p = ⟨a, b, m.strength i j⟩ := by
  have hrow : ∀ i row, m.table.values[i]? = some row ↔
      i < m.size ∧ row = (List.range m.size).map (m.strength i) := by
    intro i row
    by_cases hi : i < m.size
    · simp [Matrix.table, hi, eq_comm]
    · simp [Matrix.table, hi]
  rw [Table.pairs, List.mem_mergeSort, Table.cells, List.mem_flatMap]
  constructor
  · rintro ⟨⟨⟨a, row⟩, i⟩, hmem, hp⟩
    obtain ⟨ha, hvalues⟩ := List.getElem?_zip_eq_some.1 (List.mk_mem_zipIdx_iff_getElem?.1 hmem)
    obtain ⟨-, rfl⟩ := (hrow i row).1 hvalues
    obtain ⟨j, b, v, hij, hb, hv, hzero, rfl⟩ := Table.mem_rowPairs.1 hp
    have hj : j < m.size := Matrix.lt_size_of_getElem? hb
    have hv' : m.strength i j = v := by simpa [hj] using hv
    exact ⟨i, j, a, b, hij, ha, hb, hv' ▸ hzero, by rw [hv']⟩
  · rintro ⟨i, j, a, b, hij, ha, hb, hzero, rfl⟩
    have hi : i < m.size := Matrix.lt_size_of_getElem? ha
    have hj : j < m.size := Matrix.lt_size_of_getElem? hb
    refine ⟨((a, (List.range m.size).map (m.strength i)), i), ?_, ?_⟩
    · exact List.mk_mem_zipIdx_iff_getElem?.2 (List.getElem?_zip_eq_some.2 ⟨ha, (hrow i _).2 ⟨hi, rfl⟩⟩)
    · exact Table.mem_rowPairs.2 ⟨j, b, _, hij, hb, by simp [hj], hzero, rfl⟩

end CallCoupling
