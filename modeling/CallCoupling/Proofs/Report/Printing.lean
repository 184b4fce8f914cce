import CallCoupling.Report.Markdown
import CallCoupling.Proofs.Guarded
import CallCoupling.Proofs.Coupling.Operations
import CallCoupling.Proofs.Coupling.Table

/-!
# What reaches an output that fails

A report is printed by a long run of writes, some of them only if there is something to print, and a writer that
has failed lets all later ones go by. Still the chunks do not depend on the output: every part of a report prints
a fixed list of chunks to whatever writer it is given (`Prints`), and so does the whole. So what an output
accepts is the beginning of the list that an output without limit accepts (`Writer.putAll_limited`).

Printing stops halfway if a cell that is read is not there. Three readings may come to that, of the rows, of the
pairs and of the directed counts; a report for which all of them have an answer is whole (`Report.Whole`), and so is
every report on a matrix that operations have made.
-/

set_option autoImplicit false

namespace CallCoupling

/-! ## 1. Writing one chunk after the other -/

namespace Writer

def putAll (w : Writer) (chunks : List Loose) : Writer := chunks.foldl put w

theorem putAll_cons (w : Writer) (chunk : Loose) (chunks : List Loose) :
    w.putAll (chunk :: chunks) = (w.put chunk).putAll chunks := rfl

theorem putAll_append (w : Writer) (chunks more : List Loose) :
    w.putAll (chunks ++ more) = (w.putAll chunks).putAll more := List.foldl_append

theorem putAll_of_failed {w : Writer} (hw : w.failed = true) (chunks : List Loose) : w.putAll chunks = w := by
  induction chunks with
  | nil => rfl
  | cons chunk chunks ih =>
    have hput : w.put chunk = w := if_pos hw
    rw [putAll_cons, hput, ih]

theorem putAll_unlimited {w : Writer} (hroom : w.output.room = none) (hw : w.failed = false)
    (chunks : List Loose) :
    (w.putAll chunks).output.accepted.toList = w.output.accepted.toList ++ chunks ∧
      (w.putAll chunks).output.attempts = w.output.attempts + chunks.length ∧
      (w.putAll chunks).failed = false := by
  induction chunks generalizing w with
  | nil => simp [putAll, hw]
  | cons chunk chunks ih =>
    have hput : w.put chunk =
        { output := { w.output with
            attempts := w.output.attempts + 1, accepted := w.output.accepted.push chunk } } := by
      simp [put, hw, Output.write, hroom]
    obtain ⟨haccepted, hattempts, hfailed⟩ := ih (w := w.put chunk) (by rw [hput, hroom]) (by rw [hput])
    rw [putAll_cons]
    refine ⟨?_, ?_, hfailed⟩
    · rw [haccepted, hput, Array.toList_push, List.append_assoc, List.singleton_append]
    · rw [hattempts, hput, List.length_cons]
      show w.output.attempts + 1 + chunks.length = _
      omega

/-- **An output accepts the chunks it has room for, and is tried once more if there are others.** -/
theorem putAll_limited {w : Writer} {n : Nat} (hroom : w.output.room = some n) (hw : w.failed = false)
    (chunks : List Loose) :
    (w.putAll chunks).output.accepted.toList = w.output.accepted.toList ++ chunks.take n ∧
      (w.putAll chunks).output.attempts = w.output.attempts + min (n + 1) chunks.length ∧
      ((w.putAll chunks).failed = true ↔ n < chunks.length) := by
  induction chunks generalizing w n with
  | nil => simp [putAll, hw]
  | cons chunk chunks ih =>
    rw [putAll_cons]
    cases n with
    | zero =>
      -- This write fails, and with that the others are not even tried.
      have hput : w.put chunk =
          { output := { w.output with attempts := w.output.attempts + 1 }, failed := true } := by
        simp [put, hw, Output.write, hroom]
      rw [putAll_of_failed (by rw [hput]), hput]
      simp
    | succ n =>
      have hput : w.put chunk =
          { output := { w.output with
              attempts := w.output.attempts + 1, room := some n
              accepted := w.output.accepted.push chunk } } := by
        simp [put, hw, Output.write, hroom]
      obtain ⟨haccepted, hattempts, hfailed⟩ := ih (w := w.put chunk) (n := n) (by rw [hput]) (by rw [hput])
      refine ⟨?_, ?_, ?_⟩
      · rw [haccepted, hput, Array.toList_push, List.append_assoc, List.singleton_append, List.take_succ_cons]
      · rw [hattempts, hput, List.length_cons]
        show w.output.attempts + 1 + _ = _
        omega
      · rw [hfailed, List.length_cons]
        omega

end Writer

/-! ## 2. Parts of a report -/

/-- The computation prints these chunks, to any writer. -/
def Prints (x : Report.Printer Unit) (chunks : List Loose) : Prop :=
  ∀ w, x.run.run w = (.ok (), w.putAll chunks)

theorem prints_put (chunk : Loose) : Prints (Report.put chunk) [chunk] := fun _ => rfl

theorem prints_pure : Prints (pure ()) [] := fun _ => rfl

/-- A computation that may fail goes on from the state and the value it has reached. -/
theorem run_bind {ε σ α β : Type} (x : ExceptT ε (StateM σ) α) (k : α → ExceptT ε (StateM σ) β) (s : σ) :
    (x >>= k).run.run s =
      match x.run.run s with
      | (.ok a, s') => (k a).run.run s'
      | (.error e, s') => (.error e, s') := by
  simp only [ExceptT.run, StateT.run, bind, ExceptT.bind, ExceptT.mk, StateT.bind]
  rcases x s with ⟨_ | _, _⟩ <;> rfl

theorem Prints.bind {x : Report.Printer Unit} {k : Unit → Report.Printer Unit} {chunks more : List Loose}
    (hx : Prints x chunks) (hk : Prints (k ()) more) : Prints (x >>= k) (chunks ++ more) := by
  intro w
  rw [run_bind, hx w, Writer.putAll_append]
  exact hk _

/-- The computation has this value and prints nothing. -/
def Gives {α : Type} (x : Report.Printer α) (a : α) : Prop := ∀ w, x.run.run w = (.ok a, w)

theorem gives_need {α : Type} (missing : ReportError) {a? : Option α} {a : α} (h : a? = some a) :
    Gives (Report.need missing a?) a := by
  subst h
  exact fun _ => rfl

theorem Gives.bind {α β : Type} {x : Report.Printer α} {k : α → Report.Printer β} {a : α} {b : β}
    (hx : Gives x a) (hk : Gives (k a) b) : Gives (x >>= k) b := by
  intro w
  rw [run_bind, hx w]
  exact hk w

theorem Gives.prints {α : Type} {x : Report.Printer α} {k : α → Report.Printer Unit} {a : α} {chunks : List Loose}
    (hx : Gives x a) (hk : Prints (k a) chunks) : Prints (x >>= k) chunks := by
  intro w
  rw [run_bind, hx w]
  exact hk w

theorem prints_if {p : Prop} [Decidable p] {x : Report.Printer Unit} {chunks : List Loose} (hx : Prints x chunks) :
    Prints (if p then x else pure ()) (if p then chunks else []) := by
  split
  · exact hx
  · exact prints_pure

theorem Grid.exists_labelled {labels : List Loose} {rows : List (List Int)}
    (h : rows.length ≤ labels.length) : ∃ body, Grid.labelled labels rows = some body := by
  induction labels generalizing rows with
  | nil =>
    obtain rfl : rows = [] := List.eq_nil_of_length_eq_zero (Nat.le_zero.1 h)
    exact ⟨[], rfl⟩
  | cons label labels ih =>
    cases rows with
    | nil => exact ⟨[], rfl⟩
    | cons row rows =>
      obtain ⟨body, hbody⟩ := ih (show rows.length ≤ labels.length by simpa using h)
      exact ⟨_, by rw [Grid.labelled, hbody]; rfl⟩

/-- Rows that are there, with a label for each, have a text. -/
theorem exists_gives_grid {labels : List Name} {rows? : Option (List (List Int))} {rows : List (List Int)}
    (hrows : rows? = some rows) (h : rows.length ≤ labels.length) :
    ∃ text, Gives (Report.grid labels rows?) text := by
  obtain ⟨body, hbody⟩ := Grid.exists_labelled h
  obtain ⟨text, htext⟩ : ∃ text, Grid.render labels rows = some text := by
    rw [Grid.render, hbody]
    exact ⟨_, rfl⟩
  exact ⟨text, (gives_need .missingCell hrows).bind (gives_need .unlabelledRow htext)⟩

namespace Report

/-- **Every cell that printing reads is there**, and every row has a label. -/
structure Whole (r : Report) (t : Table) : Prop where
  rows : ∃ rows, t.rows? = some rows ∧ rows.length ≤ t.labels.length
  pairs : t.pairs? = some t.pairs
  matrix : ∀ m ∈ r.matrix, ∃ rows, directedRows? m = some rows ∧ rows.length ≤ m.labels.length

theorem exists_prints_head (r : Report) : ∃ chunks, Prints r.putHead chunks :=
  ⟨_, (prints_put _).bind (prints_if ((prints_put _).bind (prints_put _)))⟩

theorem Whole.exists_prints_table {r : Report} {t : Table} (h : r.Whole t) :
    ∃ chunks, Prints (putTable t) chunks := by
  obtain ⟨rows, hrows, hlength⟩ := h.rows
  have hread : (t.rows?.map (·.map (·.map Int.ofNat))) = some (rows.map (·.map Int.ofNat)) := by
    rw [hrows, Option.map_some]
  have hbody : ∃ chunks, Prints (if t.labels.isEmpty then put "_No types._\n\n"
      else do
        let text ← grid t.labels (t.rows?.map (·.map (·.map Int.ofNat)))
        put (text ++ Loose.ofString "\n\n")) chunks := by
    split
    · exact ⟨_, prints_put _⟩
    · obtain ⟨text, htext⟩ := exists_gives_grid hread (by simpa using hlength)
      exact ⟨_, htext.prints (prints_put _)⟩
  obtain ⟨chunks, hchunks⟩ := hbody
  exact ⟨_, (prints_put _).bind hchunks⟩

theorem prints_lines (place : Nat) (pairs : List Pair) :
    Prints (putLines place pairs) ((pairs.zipIdx place).map fun (p, i) => pairLine i p) := by
  induction pairs generalizing place with
  | nil => exact prints_pure
  | cons p rest ih => exact (prints_put _).bind (ih (place + 1))

/-- The chunks of the list of couplings. -/
def listing (pairs : List Pair) : List Loose :=
  Loose.ofString "## Strongest couplings\n\n" ::
    (if pairs = [] then [Loose.ofString "_No coupling between types._\n\n"]
      else (pairs.zipIdx 1).map (fun (p, i) => pairLine i p) ++ [Loose.ofString "\n"])

/-- The chunks of the list in the order in which they are printed. -/
theorem listing_eq (pairs : List Pair) :
    listing pairs =
      [Loose.ofString "## Strongest couplings\n\n"] ++
        ((if pairs.isEmpty then [Loose.ofString "_No coupling between types._\n\n"] else []) ++
          ((pairs.zipIdx 1).map (fun (p, i) => pairLine i p) ++
            (if !pairs.isEmpty then [Loose.ofString "\n"] else []))) := by
  cases pairs with
  | nil => rfl
  | cons p rest => rfl

theorem prints_pairs {t : Table} {pairs : List Pair} (hpairs : t.pairs? = some pairs) (top : Int) :
    Prints (putPairs top t) (listing (strongest top pairs)) := by
  rw [listing_eq]
  exact (prints_put _).bind ((gives_need _ hpairs).prints ((prints_if (prints_put _)).bind
    ((prints_lines 1 _).bind (prints_if (prints_put _)))))

theorem Whole.exists_prints_matrix {r : Report} {t : Table} (h : r.Whole t) :
    ∃ chunks, Prints (putMatrix r.matrix) chunks := by
  cases hm : r.matrix with
  | none => exact ⟨_, prints_pure⟩
  | some m =>
    obtain ⟨rows, hrows, hlength⟩ := h.matrix m hm
    obtain ⟨text, htext⟩ := exists_gives_grid hrows hlength
    exact ⟨_, prints_if ((prints_put _).bind ((prints_put _).bind
      (htext.prints ((prints_put _).bind (prints_if (prints_put _))))))⟩

/-- **A whole report is a fixed list of chunks**, and only the list of couplings in it depends on how many are
    wanted. -/
theorem Whole.exists_prints_sections {r : Report} {t : Table} (h : r.Whole t) :
    ∃ before after, ∀ top,
      Prints ({ r with top }.putSections t) (before ++ (listing (strongest top t.pairs) ++ after)) := by
  obtain ⟨head, hhead⟩ := r.exists_prints_head
  obtain ⟨table, htable⟩ := h.exists_prints_table
  obtain ⟨matrix, hmatrix⟩ := h.exists_prints_matrix
  refine ⟨head ++ table, matrix, ?_⟩
  intro top
  rw [List.append_assoc]
  exact Prints.bind hhead (htable.bind ((prints_pairs h.pairs top).bind hmatrix))

/-- What printing comes to once the chunks are known. -/
theorem printTo_of_prints {r : Report} {t : Table} {chunks : List Loose} (ht : r.table = some t)
    (hprints : Prints (r.putSections t) chunks) (room : Option Nat) :
    let w := Writer.putAll { output := { room } } chunks
    r.printTo room = (if w.failed then .error .writeFailed else .ok (), w) := by
  intro w
  have hend : ∀ w : Writer, (do if (← get).failed then throw .writeFailed : Printer Unit).run.run w =
      (if w.failed then .error .writeFailed else .ok (), w) := by
    intro w
    rw [run_bind]
    show (if w.failed = true then throw ReportError.writeFailed else pure () : Printer Unit).run.run w = _
    split <;> rfl
  unfold printTo print
  rw [ht]
  show (r.putSections t >>= fun _ => do if (← get).failed then throw .writeFailed : Printer Unit).run.run _ = _
  rw [run_bind, hprints]
  exact hend w

end Report

/-! ## 3. The readings -/

theorem Matrix.rows?_table (m : Matrix) : m.table.rows? = some m.table.values := by
  show ((List.range m.size).mapM fun (i : Nat) => (List.range m.size).mapM fun (j : Nat) => m.table.at? i j) =
    some ((List.range m.size).map fun i => (List.range m.size).map (m.strength i))
  refine mapM_eq_some fun i hi => mapM_eq_some fun j hj => ?_
  rw [Table.at?_natCast, Matrix.entry?_table, if_pos ⟨List.mem_range.1 hi, List.mem_range.1 hj⟩]

/-- The pair of two places, if they are coupled. -/
def Matrix.pairAt (m : Matrix) (i j : Nat) : Option Pair :=
  if m.strength i j = 0 then none
  else some { a := m.labels[i]?.getD [], b := m.labels[j]?.getD [], strength := m.strength i j }

theorem Matrix.pair?_table {m : Matrix} {i j : Nat} (hi : i < m.size) (hj : j < m.size) :
    m.table.pair? i j = some (m.pairAt i j) := by
  have hcell : m.table.at? i j = some (m.strength i j) := by
    rw [Table.at?_natCast, Matrix.entry?_table, if_pos ⟨hi, hj⟩]
  have ha : m.table.labels[i]? = some (m.labels[i]?.getD []) := by
    show m.labels[i]? = _
    rw [List.getElem?_eq_getElem hi, Option.getD_some]
  have hb : m.table.labels[j]? = some (m.labels[j]?.getD []) := by
    show m.labels[j]? = _
    rw [List.getElem?_eq_getElem hj, Option.getD_some]
  unfold Table.pair? Matrix.pairAt
  rw [hcell, ha, hb]
  by_cases hzero : m.strength i j = 0
  · simp [hzero]
  · simp [hzero]

theorem Matrix.rowPairs_eq {m : Matrix} {i : Nat} :
    Table.rowPairs m.labels i (m.labels[i]?.getD []) ((List.range m.size).map (m.strength i)) =
      ((List.range m.size).drop i).filterMap (m.pairAt i) := by
  have hzip : m.labels.zip ((List.range m.size).map (m.strength i)) =
      (List.range m.size).map fun j => (m.labels[j]?.getD [], m.strength i j) := by
    refine List.ext_getElem (by simp [Matrix.size]) ?_
    intro j hj _
    have hlt : j < m.labels.length := by
      rw [List.length_zip] at hj
      omega
    simp [hlt]
  rw [Table.rowPairs, hzip, ← List.map_drop, List.filterMap_map]
  rfl

theorem Matrix.pairs?_table (m : Matrix) : m.table.pairs? = some m.table.pairs := by
  have hcells : ((List.range m.size).mapM fun i => ((List.range m.size).drop i).mapM (m.table.pair? i)) =
      some ((List.range m.size).map fun i => ((List.range m.size).drop i).map (m.pairAt i)) := by
    refine mapM_eq_some fun i hi => mapM_eq_some fun j hj => ?_
    exact Matrix.pair?_table (List.mem_range.1 hi) (List.mem_range.1 (List.mem_of_mem_drop hj))
  have hrow : ∀ i, (((List.range m.size).drop i).map (m.pairAt i)).filterMap id =
      ((List.range m.size).drop i).filterMap (m.pairAt i) := by
    intro i
    rw [List.filterMap_map]
    rfl
  show (((List.range m.size).mapM fun i => ((List.range m.size).drop i).mapM (m.table.pair? i)).map _) = _
  rw [hcells, Option.map_some, Table.pairs, Matrix.cells_table, List.filterMap_flatten, List.map_map]
  simp only [Function.comp_def, hrow, Matrix.rowPairs_eq]

theorem Matrix.Square.count? {m : Matrix} (hm : m.Square) (a b : Name) : m.count? a b = some (m.count a b) := by
  unfold Matrix.count? Matrix.count
  cases ha : m.index? a with
  | none => rfl
  | some i =>
    cases hb : m.index? b with
    | none => rfl
    | some j => exact hm.cell? (hm.index_lt ha) (hm.index_lt hb)

theorem Matrix.Square.directedRows? {m : Matrix} (hm : m.Square) :
    Report.directedRows? m = some (m.labels.map fun a => m.labels.map fun b => (m.count a b : Int)) := by
  refine mapM_eq_some fun a _ => mapM_eq_some fun b _ => ?_
  rw [hm.count? a b]
  rfl

/-- **A report on the table of a matrix is whole**, with any square beside it. -/
theorem Report.whole_table {r : Report} (m : Matrix) (hr : ∀ other ∈ r.matrix, other.Square) : r.Whole m.table where
  rows := ⟨_, m.rows?_table, by simp [Matrix.table, Matrix.size]⟩
  pairs := m.pairs?_table
  matrix other hother := ⟨_, (hr other hother).directedRows?, by simp⟩

/-! ## 4. Every output -/

/-- The matrix that operations make over some labels. -/
def Matrix.made (origin : List Name × List MatrixStep) : Matrix := ((Matrix.ofLabels origin.1).run origin.2).1

theorem Matrix.square_run (labels : List Name) (steps : List MatrixStep) :
    ((Matrix.ofLabels labels).run steps).1.Square := ⟨_, ((Matrix.logs_ofLabels labels).run steps).counts⟩

theorem Matrix.square_made {other : Option (List Name × List MatrixStep)} :
    ∀ m ∈ other.map Matrix.made, m.Square := by
  intro m hm
  obtain ⟨origin, -, rfl⟩ := Option.map_eq_some_iff.1 hm
  exact Matrix.square_run origin.1 origin.2

/-- **An output that fails holds the beginning of the report.** A report with a table prints the same chunks to
    every output: one with room for `n` writes accepts the first `n`, at most one more write is tried, and there is
    an error exactly if a chunk is missing. No reading of a table or a matrix meets a cell that is not there, and each
    has the answer that it should. Without a table nothing is written. -/
theorem Report.printTo_failing_output (r : Report) (labels : List Name) (steps : List MatrixStep)
    (other : Option (List Name × List MatrixStep)) :
    let table := ((Matrix.ofLabels labels).run steps).1.table
    let matrix := other.map Matrix.made
    let full := { r with table := some table, matrix }
    (∃ chunks : List Loose,
        (∃ w, full.printTo none = (.ok (), w) ∧ w.output.accepted.toList = chunks ∧
          w.output.attempts = chunks.length) ∧
        full.text = .ok (Loose.join chunks) ∧
        ∀ n, ∃ w, full.printTo (some n) = (if n < chunks.length then .error .writeFailed else .ok (), w) ∧
          w.output.accepted.toList = chunks.take n ∧ w.output.attempts ≤ (chunks.take n).length + 1) ∧
      (table.rows? = some table.values ∧ table.pairs? = some table.pairs ∧
        ∀ m ∈ matrix, Report.directedRows? m =
          some (m.labels.map fun a => m.labels.map fun b => (m.count a b : Int))) ∧
      ∀ room, ∃ w, { r with table := none }.printTo room = (.error .noTable, w) ∧
        w.output.accepted = #[] ∧ w.output.attempts = 0 := by
  intro table matrix full
  refine ⟨?_, ⟨Matrix.rows?_table _, Matrix.pairs?_table _, ?_⟩, ?_⟩
  · have hwhole : full.Whole table := Report.whole_table _ Matrix.square_made
    obtain ⟨before, after, hprints⟩ := hwhole.exists_prints_sections
    have hprint := Report.printTo_of_prints (r := full) rfl (hprints full.top)
    generalize before ++ (listing (strongest full.top table.pairs) ++ after) = chunks at hprint
    obtain ⟨haccepted, hattempts, hfine⟩ := Writer.putAll_unlimited (w := {}) rfl rfl chunks
    have hall : full.printTo none = (.ok (), Writer.putAll {} chunks) := by
      rw [hprint none, if_neg (by simp [hfine])]
    refine ⟨chunks, ⟨_, hall, ?_, ?_⟩, ?_, ?_⟩
    · rw [haccepted]
      rfl
    · rw [hattempts]
      exact Nat.zero_add _
    · rw [Report.text, hall]
      show Except.ok (Loose.join _) = _
      rw [haccepted]
      rfl
    · intro n
      obtain ⟨haccepted, hattempts, hfailed⟩ :=
        Writer.putAll_limited (w := { output := { room := some n } }) rfl rfl chunks
      refine ⟨_, ?_, haccepted, ?_⟩
      · rw [hprint (some n), if_congr hfailed rfl rfl]
      · rw [hattempts, List.length_take]
        show 0 + _ ≤ _
        omega
  · exact fun m hm => (Matrix.square_made m hm).directedRows?
  · intro room
    exact ⟨_, rfl, rfl, rfl⟩

end CallCoupling
