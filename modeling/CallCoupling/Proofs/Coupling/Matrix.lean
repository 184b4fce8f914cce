import CallCoupling.Coupling.Build
import CallCoupling.Proofs.Names

/-!
# A matrix tabulates a function of two names

`Matrix.Shows m f` says that the index of a matrix is the inverse of its labels and that its counts are the
square of `f` over the labels, row by row. That the rows are as many and as long as the labels is part of it,
since both sides of the equation have the labels' shape.

`f` is a function on *all* names, and only its values on labels matter (`Matrix.Shows.congr`). So the same `f`
can serve before and after the label set grows, as long as it is zero where the new row and column are: that
is why copying the counts into a larger square loses nothing and adds nothing. Counting is changing `f` at one
pair.

The last section says what one recorded invocation does, policy by policy. It is all that is used of
`Matrix.record` elsewhere.
-/

set_option autoImplicit false

namespace CallCoupling

/-- **The counts are those of `f`**, and the index knows the labels. -/
structure Matrix.Shows (m : Matrix) (f : Name → Name → Nat) : Prop where
  indexed : Indexes m.index m.labels
  counts : m.counts = m.labels.map fun a => m.labels.map (f a)

/-- `f` with one more at the pair `(a, b)`. -/
def plusOne (f : Name → Name → Nat) (a b : Name) : Name → Name → Nat :=
  Function.update f a (Function.update (f a) b (f a b + 1))

theorem plusOne_apply (f : Name → Name → Nat) (a b x y : Name) :
    plusOne f a b x y = f x y + if x = a ∧ y = b then 1 else 0 := by
  unfold plusOne
  by_cases hx : x = a
  · subst hx
    rw [Function.update_self]
    by_cases hy : y = b
    · subst hy
      simp
    · simp [hy]
  · simp [hx]

/-! ## 1. Reading -/

theorem Matrix.Shows.congr {m : Matrix} {f f' : Name → Name → Nat} (hm : m.Shows f)
    (heq : ∀ a ∈ m.labels, ∀ b ∈ m.labels, f a b = f' a b) : m.Shows f' where
  indexed := hm.indexed
  counts := by
    rw [hm.counts]
    exact List.map_congr_left fun a ha => List.map_congr_left fun b hb => heq a ha b hb

theorem Matrix.Shows.has_iff {m : Matrix} {f : Name → Name → Nat} (hm : m.Shows f) {a : Name} :
    m.has a = true ↔ a ∈ m.labels := by
  unfold Matrix.has Matrix.index?
  cases hl : m.index.lookup a with
  | none => simp [hm.indexed.lookup_eq_none.mp hl]
  | some i => simp [List.mem_of_getElem? ((hm.indexed a i).mp hl)]

theorem Matrix.Shows.index?_of_mem {m : Matrix} {f : Name → Name → Nat} (hm : m.Shows f) {a : Name}
    (ha : a ∈ m.labels) : ∃ i, m.index? a = some i ∧ m.labels[i]? = some a := by
  obtain ⟨i, hi⟩ := List.mem_iff_getElem?.mp ha
  exact ⟨i, (hm.indexed a i).mpr hi, hi⟩

theorem Matrix.Shows.cell {m : Matrix} {f : Name → Name → Nat} (hm : m.Shows f) {a b : Name}
    {i j : Nat} (hi : m.labels[i]? = some a) (hj : m.labels[j]? = some b) : m.cell i j = f a b := by
  simp [Matrix.cell, hm.counts, hi, hj]

theorem Matrix.Shows.count {m : Matrix} {f : Name → Name → Nat} (hm : m.Shows f) (a b : Name) :
    m.count a b = if a ∈ m.labels ∧ b ∈ m.labels then f a b else 0 := by
  unfold Matrix.count
  by_cases ha : a ∈ m.labels
  · obtain ⟨i, hia, hi⟩ := hm.index?_of_mem ha
    by_cases hb : b ∈ m.labels
    · obtain ⟨j, hjb, hj⟩ := hm.index?_of_mem hb
      rw [hia, hjb, if_pos ⟨ha, hb⟩]
      exact hm.cell hi hj
    · have hnone : m.index? b = none := hm.indexed.lookup_eq_none.mpr hb
      rw [hia, hnone, if_neg fun hab => hb hab.2]
  · have hnone : m.index? a = none := hm.indexed.lookup_eq_none.mpr ha
    rw [hnone, if_neg fun hab => ha hab.1]

theorem Matrix.Shows.count_stranger {m : Matrix} {f : Name → Name → Nat} (hm : m.Shows f) {a b : Name}
    (hout : a ∉ m.labels ∨ b ∉ m.labels) : m.count a b = 0 := by
  rw [hm.count, if_neg (not_and_or.2 hout)]

theorem Matrix.Shows.total {m : Matrix} {f : Name → Name → Nat} (hm : m.Shows f) :
    m.total = (m.labels.map fun a => (m.labels.map (f a)).sum).sum := by
  show m.counts.flatten.sum = _
  rw [hm.counts, List.sum_flatten, List.map_map]
  rfl

/-! ## 2. Writing -/

theorem Matrix.enlist_labels {m : Matrix} (hm : Indexes m.index m.labels) (a : Name) :
    (m.enlist a).labels = enter m.labels a ∧ Indexes (m.enlist a).index (m.enlist a).labels := by
  unfold Matrix.enlist Matrix.has Matrix.index? enter
  cases hl : m.index.lookup a with
  | none =>
    have ha : a ∉ m.labels := hm.lookup_eq_none.mp hl
    simpa [ha] using hm.push ha
  | some i =>
    have ha : a ∈ m.labels := List.mem_of_getElem? ((hm a i).mp hl)
    simpa [ha] using hm

theorem Matrix.dropped_enlist (m : Matrix) (a : Name) : (m.enlist a).dropped = m.dropped := by
  unfold Matrix.enlist
  split <;> rfl

theorem Matrix.foldl_enlist (labels : List Name) :
    (labels.foldl Matrix.enlist {}).labels = labels.eraseDups ∧
      Indexes (labels.foldl Matrix.enlist {}).index (labels.foldl Matrix.enlist {}).labels := by
  induction labels using List.reverseRecOn with
  | nil => exact ⟨rfl, Indexes.nil⟩
  | append_singleton labels a ih =>
    obtain ⟨hlabels, hindexed⟩ := ih
    rw [List.foldl_append, eraseDups_concat, ← hlabels]
    exact Matrix.enlist_labels hindexed a

theorem Matrix.labels_ofLabels (labels : List Name) :
    (Matrix.ofLabels labels).labels = labels.eraseDups := (Matrix.foldl_enlist labels).1

theorem Matrix.dropped_ofLabels (labels : List Name) : (Matrix.ofLabels labels).dropped = 0 := by
  show (labels.foldl Matrix.enlist {}).dropped = 0
  induction labels using List.reverseRecOn with
  | nil => rfl
  | append_singleton labels a ih =>
    rw [List.foldl_append]
    exact (Matrix.dropped_enlist _ a).trans ih

theorem Matrix.shows_ofLabels (labels : List Name) :
    (Matrix.ofLabels labels).Shows fun _ _ => 0 where
  indexed := (Matrix.foldl_enlist labels).2
  counts := by
    show Matrix.zeros (labels.foldl Matrix.enlist {}).size = _
    rw [Matrix.labels_ofLabels, Matrix.size, (Matrix.foldl_enlist labels).1, Matrix.zeros,
      List.map_const', List.map_const']

theorem Matrix.Shows.labels_addLabel {m : Matrix} {f : Name → Name → Nat} (hm : m.Shows f)
    (l : Name) : (m.addLabel l).labels = enter m.labels l := by
  unfold Matrix.addLabel
  by_cases hl : l ∈ m.labels
  · rw [if_pos (hm.has_iff.mpr hl), enter, if_pos hl]
  · rw [if_neg fun hhas => hl (hm.has_iff.mp hhas)]
    exact (Matrix.enlist_labels hm.indexed l).1

/-- **Growing keeps the counts.** The new row and column are zero, and so is `f` there. -/
theorem Matrix.Shows.addLabel {m : Matrix} {f : Name → Name → Nat} {l : Name} (hm : m.Shows f)
    (hzero : l ∉ m.labels → ∀ a, f a l = 0 ∧ f l a = 0) : (m.addLabel l).Shows f := by
  unfold Matrix.addLabel
  by_cases hl : l ∈ m.labels
  · rw [if_pos (hm.has_iff.mpr hl)]
    exact hm
  · rw [if_neg fun hhas => hl (hm.has_iff.mp hhas)]
    obtain ⟨hlabels, hindexed⟩ := Matrix.enlist_labels hm.indexed l
    refine ⟨hindexed, ?_⟩
    show m.counts.map (· ++ [0]) ++ [List.replicate (m.size + 1) 0] = _
    rw [hlabels, enter, if_neg hl, List.map_append, hm.counts, List.map_map]
    -- The old rows with their new cell, then the new row.
    congr 1
    · apply List.map_congr_left
      intro a _
      simp [(hzero hl a).1]
    · have hrow : (m.labels ++ [l]).map (f l) = (m.labels ++ [l]).map fun _ => 0 :=
        List.map_congr_left fun a _ => (hzero hl a).2
      rw [List.map_singleton, hrow, List.map_const', List.length_append]
      rfl

theorem Matrix.dropped_addLabel (m : Matrix) (l : Name) : (m.addLabel l).dropped = m.dropped := by
  unfold Matrix.addLabel
  split
  · rfl
  · exact Matrix.dropped_enlist m l

theorem Matrix.Shows.bump {m : Matrix} {f : Name → Name → Nat} {a b : Name} {i j : Nat}
    (hm : m.Shows f) (hi : m.labels[i]? = some a) (hj : m.labels[j]? = some b) :
    (m.bump i j).Shows (plusOne f a b) where
  indexed := hm.indexed
  counts := by
    show m.counts.modify i (·.modify j (· + 1)) = _
    rw [hm.counts, modify_map hm.indexed.nodup hi, modify_map hm.indexed.nodup hj]
    apply List.map_congr_left
    intro x _
    show _ = m.labels.map (plusOne f a b x)
    unfold plusOne
    by_cases hx : x = a
    · subst hx
      rw [Function.update_self, Function.update_self]
    · rw [Function.update_of_ne hx, Function.update_of_ne hx]

theorem Matrix.Shows.increment {m : Matrix} {f : Name → Name → Nat} {a b : Name} (hm : m.Shows f)
    (ha : a ∈ m.labels) (hb : b ∈ m.labels) :
    ∃ m', m.increment a b = (m', .ok ()) ∧ m'.Shows (plusOne f a b) ∧ m'.labels = m.labels ∧
      m'.dropped = m.dropped := by
  obtain ⟨i, hia, hi⟩ := hm.index?_of_mem ha
  obtain ⟨j, hjb, hj⟩ := hm.index?_of_mem hb
  refine ⟨m.bump i j, ?_, hm.bump hi hj, rfl, rfl⟩
  rw [Matrix.increment, hia, hjb]

/-! ## 3. Recording under a policy -/

theorem Matrix.Shows.accept_known {m : Matrix} {f : Name → Name → Nat} {l : Name} (hm : m.Shows f)
    (policy : Policy) (hl : l ∈ m.labels) : m.accept policy l = .ok (some m) := by
  unfold Matrix.accept
  rw [if_pos (hm.has_iff.mpr hl)]

/-- A growing matrix accepts every label, and a known one is added without effect. -/
theorem Matrix.accept_grow (m : Matrix) (l : Name) : m.accept .grow l = .ok (some (m.addLabel l)) := by
  unfold Matrix.accept Matrix.addLabel
  split <;> rfl

/-- Between known labels every policy counts. -/
theorem Matrix.Shows.record_known {m : Matrix} {f : Name → Name → Nat} {a b : Name} (hm : m.Shows f)
    (policy : Policy) (ha : a ∈ m.labels) (hb : b ∈ m.labels) :
    ∃ m', m.record policy a b = .ok m' ∧ m'.Shows (plusOne f a b) ∧ m'.labels = m.labels ∧
      m'.dropped = m.dropped := by
  obtain ⟨m', hincrement, hshows, hlabels, hdropped⟩ := hm.increment ha hb
  refine ⟨m', ?_, hshows, hlabels, hdropped⟩
  simp only [Matrix.record, hm.accept_known policy ha, hm.accept_known policy hb, hincrement]

/-- Growing makes both labels known, the row's before the column's, and then counts. -/
theorem Matrix.Shows.record_grow {m : Matrix} {f : Name → Name → Nat} (hm : m.Shows f) (a b : Name)
    (hzero : ∀ l ∉ m.labels, ∀ x, f x l = 0 ∧ f l x = 0) :
    ∃ m', m.record .grow a b = .ok m' ∧ m'.Shows (plusOne f a b) ∧
      m'.labels = enter (enter m.labels a) b ∧ m'.dropped = m.dropped := by
  have hma : (m.addLabel a).Shows f := hm.addLabel (hzero a)
  have hla : (m.addLabel a).labels = enter m.labels a := hm.labels_addLabel a
  have hzero' : ∀ l ∉ (m.addLabel a).labels, ∀ x, f x l = 0 ∧ f l x = 0 := by
    intro l hl
    refine hzero l fun hmem => hl ?_
    rw [hla]
    exact mem_enter.mpr (Or.inr hmem)
  have hmb : ((m.addLabel a).addLabel b).Shows f := hma.addLabel (hzero' b)
  have hlb : ((m.addLabel a).addLabel b).labels = enter (enter m.labels a) b := by
    rw [hma.labels_addLabel b, hla]
  obtain ⟨m', hincrement, hshows, hlabels, hdropped⟩ := hmb.increment (a := a) (b := b)
    (by rw [hlb]; exact mem_enter.mpr (Or.inr (mem_enter.mpr (Or.inl rfl))))
    (by rw [hlb]; exact mem_enter.mpr (Or.inl rfl))
  refine ⟨m', ?_, hshows, hlabels.trans hlb, ?_⟩
  · simp only [Matrix.record, Matrix.accept_grow, hincrement]
  · rw [hdropped, Matrix.dropped_addLabel, Matrix.dropped_addLabel]

/-- Dropping leaves all but the tally alone, and tallies once even if both labels are unknown. -/
theorem Matrix.Shows.record_drop {m : Matrix} {f : Name → Name → Nat} {a b : Name} (hm : m.Shows f)
    (hout : ¬ (a ∈ m.labels ∧ b ∈ m.labels)) : m.record .drop a b = .ok m.drop := by
  unfold Matrix.record
  by_cases ha : a ∈ m.labels
  · have hb : b ∉ m.labels := fun hb => hout ⟨ha, hb⟩
    rw [hm.accept_known .drop ha]
    simp [Matrix.accept, mt hm.has_iff.mp hb]
  · simp [Matrix.accept, mt hm.has_iff.mp ha]

/-- Rejecting names the first label that is unknown. -/
theorem Matrix.Shows.record_reject {m : Matrix} {f : Name → Name → Nat} {a b : Name} (hm : m.Shows f)
    (hout : ¬ (a ∈ m.labels ∧ b ∈ m.labels)) :
    m.record .reject a b = .error (.outOfSet (if a ∈ m.labels then b else a)) := by
  unfold Matrix.record
  by_cases ha : a ∈ m.labels
  · have hb : b ∉ m.labels := fun hb => hout ⟨ha, hb⟩
    rw [hm.accept_known .reject ha, if_pos ha]
    simp [Matrix.accept, mt hm.has_iff.mp hb]
  · rw [if_neg ha]
    simp [Matrix.accept, mt hm.has_iff.mp ha]

end CallCoupling
