import CallCoupling.Proofs.Coupling.Tally

/-!
# A matrix under any operations

A matrix is counted in, extended by labels and told of drops in any order, and some of its operations fail. What
it holds afterwards is read off the list of operations: the labels are those it started with and those added,
each at its first occurrence, and the count of two labels is the number of increments of that pair that succeeded,
no matter which of the labels came when.

`Matrix.Logs m labels sites` is the invariant: `m` has the labels of a list, repeats removed, and tabulates a list of
pairs all of whose ends are labels. The last part is what lets the square grow. A label that is not there yet is in
none of the pairs, so its row and column are zero, which is what growing puts there; with a pair that has an end
outside the labels the invariant would be lost by the next label added.
-/

set_option autoImplicit false

namespace CallCoupling

/-- An operation on a matrix. -/
inductive MatrixStep where
  | increment (row col : Name)
  | addLabel (label : Name)
  | drop
deriving DecidableEq, Repr

/-- The label that an operation adds, known or not. -/
def MatrixStep.label? : MatrixStep → Option Name
  | .addLabel label => some label
  | .increment _ _ | .drop => none

/-- The pair that an operation with this answer has counted. -/
def MatrixStep.counted? : MatrixStep → Except MatrixError Unit → Option (Name × Name)
  | .increment row col, .ok () => some (row, col)
  | _, _ => none

namespace Matrix

def step (m : Matrix) : MatrixStep → Matrix × Except MatrixError Unit
  | .increment row col => m.increment row col
  | .addLabel label => (m.addLabel label, .ok ())
  | .drop => (m.drop, .ok ())

/-- The matrix after some operations, and the answer of each. -/
def run (m : Matrix) : List MatrixStep → Matrix × List (Except MatrixError Unit)
  | [] => (m, [])
  | s :: steps =>
    let (m, answer) := m.step s
    let (m, answers) := m.run steps
    (m, answer :: answers)

/-- The labels that some operations add, in order. -/
def added (steps : List MatrixStep) : List Name := steps.filterMap MatrixStep.label?

/-- The pairs of the increments that succeeded, in order. -/
def counted (steps : List MatrixStep) (answers : List (Except MatrixError Unit)) : List (Name × Name) :=
  (steps.zip answers).filterMap fun (s, answer) => s.counted? answer

end Matrix

/-- **The matrix has these labels and counts these pairs**, and no pair has an end that is no label. -/
structure Matrix.Logs (m : Matrix) (labels : List Name) (sites : List (Name × Name)) : Prop where
  counts : m.Shows fun a b => sites.count (a, b)
  labels : m.labels = labels.eraseDups
  closed : ∀ site ∈ sites, site.1 ∈ m.labels ∧ site.2 ∈ m.labels

/-! ## 1. One operation -/

theorem Matrix.logs_ofLabels (labels : List Name) : (Matrix.ofLabels labels).Logs labels [] where
  counts := Matrix.shows_ofLabels labels
  labels := Matrix.labels_ofLabels labels
  closed := nofun

/-- An increment with an unknown end fails, the row before the column, and changes nothing. -/
theorem Matrix.Shows.increment_unknown {m : Matrix} {f : Name → Name → Nat} (hm : m.Shows f) {a b : Name}
    (hout : ¬ (a ∈ m.labels ∧ b ∈ m.labels)) :
    m.increment a b = (m, .error (if a ∈ m.labels then .unknownColumn b else .unknownRow a)) := by
  unfold Matrix.increment
  by_cases ha : a ∈ m.labels
  · obtain ⟨i, hi, -⟩ := hm.index?_of_mem ha
    have hb : m.index? b = none := hm.indexed.lookup_eq_none.2 fun hb => hout ⟨ha, hb⟩
    simp [hi, hb, ha]
  · have hnone : m.index? a = none := hm.indexed.lookup_eq_none.2 ha
    simp [hnone, ha]

theorem Matrix.Shows.addLabel_known {m : Matrix} {f : Name → Name → Nat} (hm : m.Shows f) {l : Name}
    (hl : l ∈ m.labels) : m.addLabel l = m := by
  unfold Matrix.addLabel
  rw [if_pos (hm.has_iff.2 hl)]

theorem Matrix.Logs.increment {m : Matrix} {labels : List Name} {sites : List (Name × Name)}
    (hm : m.Logs labels sites) (a b : Name) :
    (m.increment a b).1.Logs labels
      (sites ++ ((MatrixStep.increment a b).counted? (m.increment a b).2).toList) := by
  by_cases hin : a ∈ m.labels ∧ b ∈ m.labels
  · obtain ⟨m', hok, hshows, hlabels, -⟩ := hm.counts.increment hin.1 hin.2
    rw [hok]
    refine ⟨plusOne_count sites a b ▸ hshows, hlabels.trans hm.labels, ?_⟩
    intro site hsite
    rw [hlabels]
    rcases List.mem_append.1 hsite with hold | hnew
    · exact hm.closed site hold
    · rw [List.mem_singleton.1 hnew]
      exact hin
  · rw [hm.counts.increment_unknown hin]
    show m.Logs labels (sites ++ [])
    rw [List.append_nil]
    exact hm

/-- **Growing loses no count and makes none.** -/
theorem Matrix.Logs.addLabel {m : Matrix} {labels : List Name} {sites : List (Name × Name)}
    (hm : m.Logs labels sites) (l : Name) : (m.addLabel l).Logs (labels ++ [l]) sites := by
  have hlabels : (m.addLabel l).labels = enter m.labels l := hm.counts.labels_addLabel l
  -- A label that is not there is an end of no pair.
  have hzero : l ∉ m.labels → ∀ x, sites.count (x, l) = 0 ∧ sites.count (l, x) = 0 := by
    intro hl x
    constructor
    · exact List.count_eq_zero.2 fun hmem => hl (hm.closed _ hmem).2
    · exact List.count_eq_zero.2 fun hmem => hl (hm.closed _ hmem).1
  refine ⟨hm.counts.addLabel hzero, ?_, ?_⟩
  · rw [hlabels, hm.labels, eraseDups_concat]
  · intro site hsite
    obtain ⟨hrow, hcol⟩ := hm.closed site hsite
    rw [hlabels]
    exact ⟨mem_enter.2 (Or.inr hrow), mem_enter.2 (Or.inr hcol)⟩

theorem Matrix.Logs.step {m : Matrix} {labels : List Name} {sites : List (Name × Name)}
    (hm : m.Logs labels sites) (s : MatrixStep) :
    (m.step s).1.Logs (labels ++ s.label?.toList) (sites ++ (s.counted? (m.step s).2).toList) := by
  cases s with
  | increment a b =>
    rw [MatrixStep.label?, Option.toList_none, List.append_nil]
    exact hm.increment a b
  | addLabel l =>
    show (m.addLabel l).Logs (labels ++ [l]) (sites ++ [])
    rw [List.append_nil]
    exact hm.addLabel l
  | drop =>
    show m.drop.Logs (labels ++ []) (sites ++ [])
    rw [List.append_nil, List.append_nil]
    exact ⟨⟨hm.counts.indexed, hm.counts.counts⟩, hm.labels, hm.closed⟩

theorem Matrix.dropped_step (m : Matrix) (s : MatrixStep) :
    (m.step s).1.dropped = m.dropped + if s = .drop then 1 else 0 := by
  cases s with
  | increment a b =>
    show (m.increment a b).1.dropped = _
    unfold Matrix.increment
    cases m.index? a with
    | none => rfl
    | some i => cases m.index? b <;> rfl
  | addLabel l => exact Matrix.dropped_addLabel m l
  | drop => rfl

/-! ## 2. Runs -/

theorem Matrix.counted_cons (s : MatrixStep) (steps : List MatrixStep) (answer : Except MatrixError Unit)
    (answers : List (Except MatrixError Unit)) :
    Matrix.counted (s :: steps) (answer :: answers) =
      (s.counted? answer).toList ++ Matrix.counted steps answers := by
  unfold Matrix.counted
  rw [List.zip_cons_cons, List.filterMap_cons]
  cases hs : s.counted? answer <;> simp [hs]

theorem Matrix.added_cons (s : MatrixStep) (steps : List MatrixStep) :
    Matrix.added (s :: steps) = s.label?.toList ++ Matrix.added steps := by
  unfold Matrix.added
  rw [List.filterMap_cons]
  cases s.label? <;> rfl

theorem Matrix.Logs.run {m : Matrix} {labels : List Name} {sites : List (Name × Name)}
    (hm : m.Logs labels sites) (steps : List MatrixStep) :
    (m.run steps).1.Logs (labels ++ Matrix.added steps)
      (sites ++ Matrix.counted steps (m.run steps).2) := by
  induction steps generalizing m labels sites with
  | nil =>
    show m.Logs (labels ++ []) (sites ++ [])
    rw [List.append_nil, List.append_nil]
    exact hm
  | cons s steps ih =>
    have hrest := ih (hm.step s)
    rw [List.append_assoc, List.append_assoc] at hrest
    rw [Matrix.added_cons, Matrix.run, Matrix.counted_cons]
    exact hrest

theorem Matrix.dropped_run (m : Matrix) (steps : List MatrixStep) :
    (m.run steps).1.dropped = m.dropped + steps.count .drop := by
  induction steps generalizing m with
  | nil => rfl
  | cons s steps ih =>
    show ((m.step s).1.run steps).1.dropped = _
    rw [ih, Matrix.dropped_step, List.count_cons]
    simp only [beq_iff_eq]
    omega

theorem Matrix.run_append (m : Matrix) (before after : List MatrixStep) :
    (m.run (before ++ after)).1 = ((m.run before).1.run after).1 := by
  induction before generalizing m with
  | nil => rfl
  | cons s before ih => exact ih (m.step s).1

/-- Operations append labels and move none. -/
theorem Matrix.Logs.labels_run {m : Matrix} {labels : List Name} {sites : List (Name × Name)}
    (hm : m.Logs labels sites) (steps : List MatrixStep) : m.labels <+: (m.run steps).1.labels := by
  rw [(hm.run steps).labels, hm.labels, List.eraseDups_append]
  exact List.prefix_append _ _

/-! ## 3. What a matrix holds -/

/-- **What is in a matrix after some operations.** Labels are distinct and come as they were given; index and
    square fit them; counts are those of the increments that succeeded. -/
structure Matrix.Holds (m : Matrix) (labels : List Name) (steps : List MatrixStep)
    (answers : List (Except MatrixError Unit)) : Prop where
  labels_distinct : m.labels.Nodup
  labels_eq : m.labels =
    labels.eraseDups ++ ((Matrix.added steps).filter fun l => l ∉ labels).eraseDups
  index?_eq_some_iff : ∀ a i, m.index? a = some i ↔ m.labels[i]? = some a
  rows_length : m.counts.length = m.size
  row_length : ∀ row ∈ m.counts, row.length = m.size
  count_eq : ∀ a b, m.count a b = (Matrix.counted steps answers).count (a, b)
  count_of_stranger : ∀ a b, a ∉ m.labels ∨ b ∉ m.labels → m.count a b = 0
  total_eq : m.total = (Matrix.counted steps answers).length
  dropped_eq : m.dropped = steps.count .drop

theorem Matrix.Shows.square {m : Matrix} {f : Name → Name → Nat} (hm : m.Shows f) :
    m.counts.length = m.size ∧ ∀ row ∈ m.counts, row.length = m.size := by
  rw [hm.counts]
  refine ⟨List.length_map _, ?_⟩
  intro row hrow
  obtain ⟨a, -, rfl⟩ := List.mem_map.1 hrow
  exact List.length_map _

theorem Matrix.Logs.total {m : Matrix} {labels : List Name} {sites : List (Name × Name)}
    (hm : m.Logs labels sites) : m.total = sites.length := by
  rw [hm.counts.total_eq_countP, List.countP_eq_length]
  intro site hsite
  simpa using hm.closed site hsite

theorem Matrix.holds_run (labels : List Name) (steps : List MatrixStep) :
    ((Matrix.ofLabels labels).run steps).1.Holds labels steps ((Matrix.ofLabels labels).run steps).2 := by
  have hm := (Matrix.logs_ofLabels labels).run steps
  rw [List.nil_append] at hm
  refine ⟨hm.counts.indexed.nodup, ?_, hm.counts.indexed, hm.counts.square.1, hm.counts.square.2,
    hm.counts.count_of_closed hm.closed, fun a b => hm.counts.count_stranger, hm.total, ?_⟩
  · rw [hm.labels, List.eraseDups_append, List.removeAll]
    simp
  · rw [Matrix.dropped_run, Matrix.dropped_ofLabels, Nat.zero_add]

/-- **No run of operations breaks a matrix.** Whatever the initial labels and the operations, it holds what they
    say; no label changes its place; an increment succeeds exactly between labels and otherwise changes
    nothing; and to add a label again changes nothing. -/
theorem Matrix.run_holds (labels : List Name) (steps : List MatrixStep) :
    let m := ((Matrix.ofLabels labels).run steps).1
    m.Holds labels steps ((Matrix.ofLabels labels).run steps).2 ∧
      (∀ before after, steps = before ++ after →
        ((Matrix.ofLabels labels).run before).1.labels <+: m.labels) ∧
      (∀ a b, (m.increment a b).2 = .ok () ↔ a ∈ m.labels ∧ b ∈ m.labels) ∧
      (∀ a b, a ∉ m.labels ∨ b ∉ m.labels → ∃ e, m.increment a b = (m, .error e)) ∧
      ∀ l ∈ m.labels, m.addLabel l = m := by
  intro m
  have hm := (Matrix.logs_ofLabels labels).run steps
  refine ⟨Matrix.holds_run labels steps, ?_, ?_, ?_, fun l => hm.counts.addLabel_known⟩
  · rintro before after rfl
    show _ <+: ((Matrix.ofLabels labels).run (before ++ after)).1.labels
    rw [Matrix.run_append]
    exact ((Matrix.logs_ofLabels labels).run before).labels_run after
  · intro a b
    by_cases hin : a ∈ m.labels ∧ b ∈ m.labels
    · obtain ⟨m', hok, -⟩ := hm.counts.increment hin.1 hin.2
      show (m.increment a b).2 = _ ↔ _
      rw [hok]
      exact ⟨fun _ => hin, fun _ => rfl⟩
    · rw [hm.counts.increment_unknown hin]
      exact ⟨nofun, fun h => absurd h hin⟩
  · intro a b hout
    exact ⟨_, hm.counts.increment_unknown (not_and_or.2 hout)⟩

/-- Growing from no labels at all, with a repeat, a failed count and a drop on the way. -/
example :
    let x : Name := [.char 'X']
    let y : Name := [.char 'Y']
    let m := ((Matrix.ofLabels []).run [.addLabel x, .increment x x, .increment x y, .addLabel y, .drop,
      .addLabel x, .increment x y, .increment x x]).1
    m.labels = [x, y] ∧ m.counts = [[2, 1], [0, 0]] ∧ m.dropped = 1 := by decide

end CallCoupling
