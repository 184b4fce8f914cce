import CallCoupling.Proofs.Coupling.Operations
import CallCoupling.Proofs.Coupling.Table
import CallCoupling.Proofs.Report.Printing
import CallCoupling.Web.Server

/-!
# All presentations show the same counts

A matrix is shown in several forms: the server answers with the directed counts, with the table and its pairs, and
with one pair that is asked for; the report has the directed counts again. Some of them read the square by places,
some by names, and only the table treats the diagonal apart.

> Reading by names gives the square back. So everything shown is a function of one square, and the forms can be
> compared place by place.

That is `Matrix.Shows.map_count_labels`, for the counts; for the table it is `Matrix.Shows.coupling`.
`Server.Presents` collects what a client may rely on, for whatever matrix the operations lead to.
-/

set_option autoImplicit false

namespace CallCoupling

namespace PairRecord

/-- The record from the other side. -/
def swap (p : PairRecord) : PairRecord := ⟨p.b, p.a, p.strength, p.backward, p.forward⟩

/-- **The record adds up.** Between two types both directions count, and a type with itself has only one. -/
structure AddsUp (p : PairRecord) : Prop where
  positive : 0 < p.strength
  apart : p.a ≠ p.b → p.strength = p.forward + p.backward
  self : p.a = p.b → p.strength = p.forward ∧ p.forward = p.backward

end PairRecord

/-- **Rows that fold a square of side `n` along its diagonal.** -/
structure Folds (rows raw : List (List Nat)) (n : Nat) : Prop where
  rows_length : rows.length = n
  row_length : ∀ row ∈ rows, row.length = n
  symmetric : ∀ i j, entry? rows i j = entry? rows j i
  diagonal : ∀ i < n, ∃ v, entry? raw i i = some v ∧ entry? rows i i = some v
  apart : ∀ i < n, ∀ j < n, i ≠ j →
    ∃ v w, entry? raw i j = some v ∧ entry? raw j i = some w ∧ entry? rows i j = some (v + w)

/-- **What a server and a report show of a result.** -/
structure Server.Presents (s : Server) (r : Result) : Prop where
  labels : r.table.labels = r.matrix.labels
  folds : Folds r.table.values r.matrix.counts r.matrix.size
  counts : s.counts = .ofFields (Server.tableFields r.matrix.labels r.matrix.counts)
  directedRows : Report.directedRows? r.matrix = some (r.matrix.counts.map fun row => row.map Int.ofNat)
  coupling : s.coupling = .ofFields (Server.tableFields r.table.labels r.table.values ++
    [("pairs", .array (r.records.map PairRecord.toJson))])
  pair : ∀ a ∈ r.matrix.labels, ∀ b ∈ r.matrix.labels, s.pair a b = Server.data (r.pairRecord a b).toJson
  coupling_comm : ∀ a b, r.table.coupling a b = r.table.coupling b a
  coupling_stranger : ∀ a b, a ∉ r.matrix.labels ∨ b ∉ r.matrix.labels → r.table.coupling a b = 0
  records : ∀ p ∈ r.records, p.AddsUp
  swap : ∀ a b, r.pairRecord b a = (r.pairRecord a b).swap

/-! ## 1. The square -/

/-- Asking for every count by name gives the square back. -/
theorem Matrix.Shows.map_count_labels {m : Matrix} {f : Name → Name → Nat} (hm : m.Shows f) :
    (m.labels.map fun a => m.labels.map fun b => m.count a b) = m.counts := by
  rw [hm.counts]
  apply List.map_congr_left
  intro a ha
  apply List.map_congr_left
  intro b hb
  rw [hm.count, if_pos ⟨ha, hb⟩]

theorem Matrix.Shows.directedRows {m : Matrix} {f : Name → Name → Nat} (hm : m.Shows f) :
    Report.directedRows? m = some (m.counts.map fun row => row.map Int.ofNat) := by
  have hrows : (m.labels.map fun a => m.labels.map fun b => (m.count a b : Int)) =
      m.counts.map fun row => row.map Int.ofNat := by
    rw [← hm.map_count_labels, List.map_map]
    apply List.map_congr_left
    intro a _
    exact (List.map_map ..).symm
  rw [Matrix.Square.directedRows? ⟨f, hm⟩, hrows]

theorem Matrix.Shows.folds {m : Matrix} {f : Name → Name → Nat} (hm : m.Shows f) :
    Folds m.table.values m.counts m.size where
  rows_length := by simp [Matrix.table]
  row_length row hrow := by
    obtain ⟨i, -, rfl⟩ := List.mem_map.1 hrow
    simp
  symmetric i j := by
    rw [Matrix.entry?_table, Matrix.entry?_table, Matrix.strength_comm]
    exact if_congr And.comm rfl rfl
  diagonal i hi := by
    refine ⟨m.cell i i, ?_, ?_⟩
    · rw [hm.entry?_counts, if_pos ⟨hi, hi⟩]
    · rw [Matrix.entry?_table, if_pos ⟨hi, hi⟩, Matrix.strength, if_pos rfl]
  apart i hi j hj hij := by
    refine ⟨m.cell i j, m.cell j i, ?_, ?_, ?_⟩
    · rw [hm.entry?_counts, if_pos ⟨hi, hj⟩]
    · rw [hm.entry?_counts, if_pos ⟨hj, hi⟩]
    · rw [Matrix.entry?_table, if_pos ⟨hi, hj⟩, Matrix.strength, if_neg hij]

/-! ## 2. The records -/

theorem Matrix.Shows.coupling_stranger {m : Matrix} {f : Name → Name → Nat} (hm : m.Shows f) {a b : Name}
    (hout : a ∉ m.labels ∨ b ∉ m.labels) : m.table.coupling a b = 0 := by
  rw [hm.coupling]
  split
  · rename_i hab
    subst hab
    exact hm.count_stranger hout
  · rw [hm.count_stranger hout, hm.count_stranger hout.symm]

theorem Result.swap_pairRecord {r : Result} {f : Name → Name → Nat} (hm : r.matrix.Shows f) (a b : Name) :
    r.pairRecord b a = (r.pairRecord a b).swap := by
  have hcomm : r.table.coupling b a = r.table.coupling a b := hm.coupling_comm b a
  simp [Result.pairRecord, PairRecord.swap, hcomm]

theorem Result.addsUp_pairRecord {r : Result} {f : Name → Name → Nat} (hm : r.matrix.Shows f) {a b : Name}
    (hpos : r.table.coupling a b ≠ 0) : (r.pairRecord a b).AddsUp where
  positive := Nat.pos_of_ne_zero hpos
  apart hab := by
    have hne : a ≠ b := hab
    show r.matrix.table.coupling a b = _
    rw [hm.coupling, if_neg hne]
    rfl
  self hab := by
    obtain rfl : a = b := hab
    refine ⟨?_, rfl⟩
    show r.matrix.table.coupling a a = _
    rw [hm.coupling, if_pos rfl]
    rfl

/-- Only couplings are listed, and a record is asked for by the names of its pair. -/
theorem Result.addsUp_records {r : Result} {f : Name → Name → Nat} (hm : r.matrix.Shows f) :
    ∀ p ∈ r.records, p.AddsUp := by
  intro p hp
  obtain ⟨q, hq, rfl⟩ := List.mem_map.1 hp
  obtain ⟨i, j, a, b, -, ha, hb, hpos, rfl⟩ := Matrix.mem_pairs.1 hq
  apply Result.addsUp_pairRecord hm
  show r.matrix.table.coupling a b ≠ 0
  rw [hm.coupling, ← hm.strength ha hb]
  exact hpos

/-! ## 3. The server -/

theorem Server.presents_takeResult {r : Result} {f : Name → Name → Nat} (hm : r.matrix.Shows f)
    (s : Server) : (s.takeResult r).Presents r where
  labels := rfl
  folds := hm.folds
  counts := by
    show Json.ofFields (Server.tableFields r.matrix.labels
      (r.matrix.labels.map fun a => r.matrix.labels.map fun b => r.matrix.count a b)) = _
    rw [hm.map_count_labels]
  directedRows := hm.directedRows
  coupling := rfl
  pair a ha b hb := by
    have hknown : ∀ x ∈ r.matrix.labels, (!r.matrix.has x) = false := by
      intro x hx
      rw [hm.has_iff.2 hx, Bool.not_true]
    show (if !r.matrix.has a then _ else if !r.matrix.has b then _ else _) = _
    simp only [hknown a ha, hknown b hb, Bool.false_eq_true, if_false]
  coupling_comm := hm.coupling_comm
  coupling_stranger _ _ := hm.coupling_stranger
  records := Result.addsUp_records hm
  swap := Result.swap_pairRecord hm

/-- **Whatever is shown agrees with the counts**, for every matrix that operations lead to and every result that
    holds it. -/
theorem Server.presents_run (labels : List Name) (steps : List MatrixStep) (r : Result) (s : Server) :
    let r := { r with matrix := ((Matrix.ofLabels labels).run steps).1 }
    (s.takeResult r).Presents r := by
  intro r
  exact Server.presents_takeResult ((Matrix.logs_ofLabels labels).run steps).counts s

end CallCoupling
