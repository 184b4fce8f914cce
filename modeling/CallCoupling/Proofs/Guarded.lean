import CallCoupling.Proofs.Coupling.Pairs
import CallCoupling.Proofs.Coupling.Tally
import CallCoupling.Proofs.Graph.Canonical

/-!
# No access leaves its table

Tables are read and written by place all over the library, and the operations on lists are total: a place that
is not there is read as a default and written without effect. This file shows that this never happens. It has
a second, *guarded* form of the visits, in which every access has to find its place and every entry of the model
has to be there; the answer is `none` otherwise. The guarded form differs from the plain one in nothing else, so

> `guarded = some plain`

says that the plain form never uses a default. It holds for every model whose lists of types and methods have no
null entry, under every chain and policy.

What carries it are the two invariants of the tables: a graph under construction shows a history
(`Graph.Coherent`), and a matrix is a square over its labels whose index stays inside (`Matrix.Square`).
-/

set_option autoImplicit false

namespace CallCoupling

theorem mapM_eq_some {α β : Type} {l : List α} {f : α → Option β} {g : α → β}
    (h : ∀ a ∈ l, f a = some (g a)) : l.mapM f = some (l.map g) := by
  induction l with
  | nil => rfl
  | cons a l ih =>
    have hrest := ih fun b hb => h b (List.mem_cons_of_mem _ hb)
    simp [List.mapM_cons, h a List.mem_cons_self, hrest]

/-- Change the item at a place that has to be there. -/
def modifyAt? {α : Type} (table : List α) (i : Nat) (f : α → α) : Option (List α) :=
  if i < table.length then some (table.modify i f) else none

theorem modifyAt?_of_lt {α : Type} {table : List α} {i : Nat} (hi : i < table.length) (f : α → α) :
    modifyAt? table i f = some (table.modify i f) := if_pos hi

/-! ## 1. The guarded visit of methods -/

namespace Graph

def promote? (g : Graph) (i : Nat) (least : Membership) : Option Graph :=
  (modifyAt? g.membership i (·.promote least)).map fun membership => { g with membership }

def countCall? (g : Graph) (i : Nat) : Option Graph :=
  (modifyAt? g.multiplicity i (· + 1)).map fun multiplicity => { g with multiplicity }

/-- Add a caller, with every access inside its table. -/
def addCaller? (g : Graph) (name : Name) : Option (Graph × Except GraphError Nat) :=
  if name.isEmpty then some (g, .error .emptyCaller)
  else
    let (g, i) := g.ensure name
    (g.promote? i .confirmed).map fun g => (g.openLinks i, .ok i)

/-- Add a call site, with every access inside its table. -/
def addCallee? (g : Graph) (caller : Int) (name : Name) : Option (Graph × Except GraphError Nat) :=
  if name.isEmpty then some (g, .error .emptyCallee)
  else
    match g.callees? caller with
    | none => some (g, .error (.unknownCaller caller))
    | some _ =>
      let (g, i) := g.ensure name
      (g.promote? i .calleeOnly).bind fun g =>
        (g.countCall? i).map fun g => (g.link caller.toNat i, .ok i)

def addInvocations? (chain : Chain) (caller : Nat) (owner : Name) :
    List (Option Invocation) → Graph → Option (Except ClassGraphError Graph)
  | [], g => some (.ok g)
  | i :: is, g =>
    match receiverName chain i with
    | .error e => some (.error (.childIdentity owner e))
    | .ok name =>
      match g.addCallee? caller name with
      | none => none
      | some (_, .error e) => some (.error (.child owner e))
      | some (g, .ok _) => addInvocations? chain caller owner is g

/-- Add methods, none of which may be null. -/
def addMethods? (chain : Chain) :
    List (Option Method) → Graph → Option (Except ClassGraphError Graph)
  | [], g => some (.ok g)
  | none :: _, _ => none
  | some m :: ms, g =>
    match g.addCaller? m.owner with
    | none => none
    | some (_, .error e) => some (.error (.parent e))
    | some (g, .ok caller) =>
      match addInvocations? chain caller m.owner m.invocations g with
      | none => none
      | some (.error e) => some (.error e)
      | some (.ok g) => addMethods? chain ms g

/-- The class call graph, with every access inside its table and no null method. -/
def ofMethods? (methods : List (Option Method)) (chain : Chain) :
    Option (Except ClassGraphError Graph) := addMethods? chain methods {}

end Graph

/-- A graph that steps have made. -/
def Graph.Coherent (g : Graph) : Prop := ∃ h : History, g.Shows h.picture ∧ h.Sound

theorem Graph.coherent_empty : Graph.Coherent {} := ⟨[], Graph.shows_empty rfl, History.sound_nil⟩

theorem Graph.Coherent.step {g : Graph} (hg : g.Coherent) (s : GraphStep) : (g.step s).1.Coherent := by
  obtain ⟨h, hshows, hsound⟩ := hg
  rcases hshows.step hsound s with ⟨e, hstep⟩ | ⟨g', i, x, hstep, hshows', hsound', -⟩
  · rw [hstep]
    exact ⟨h, hshows, hsound⟩
  · rw [hstep]
    exact ⟨_, hshows', hsound'⟩

/-- The id of a name is a place in both tables, also if it has just been given. -/
theorem Graph.Coherent.ensure_lt {g : Graph} (hg : g.Coherent) (a : Name) :
    (g.ensure a).2 < (g.ensure a).1.membership.length ∧
      (g.ensure a).2 < (g.ensure a).1.multiplicity.length := by
  obtain ⟨h, hshows, hsound⟩ := hg
  obtain ⟨hens, hi⟩ := hshows.ensure (a := a) hsound.silent
  have hlt := Graph.lt_size_of_getElem? hi
  rw [hens.membership, hens.multiplicity, List.length_map, List.length_map]
  exact ⟨hlt, hlt⟩

theorem Graph.Coherent.addCaller? {g : Graph} (hg : g.Coherent) (a : Name) :
    g.addCaller? a = some (g.addCaller a) := by
  unfold Graph.addCaller? Graph.addCaller
  split
  · rfl
  · simp only [Graph.promote?, modifyAt?_of_lt (hg.ensure_lt a).1, Option.map_some, Graph.promote]

theorem Graph.Coherent.addCallee? {g : Graph} (hg : g.Coherent) (caller : Int) (a : Name) :
    g.addCallee? caller a = some (g.addCallee caller a) := by
  unfold Graph.addCallee? Graph.addCallee
  split
  · rfl
  · cases g.callees? caller with
    | none => rfl
    | some targets =>
      simp only [Graph.promote?, Graph.countCall?, modifyAt?_of_lt (hg.ensure_lt a).1,
        modifyAt?_of_lt (hg.ensure_lt a).2, Option.map_some, Option.bind_some, Graph.promote,
        Graph.countCall]

theorem Graph.Coherent.addInvocations? {g : Graph} (hg : g.Coherent) (chain : Chain) (caller : Nat)
    (owner : Name) (is : List (Option Invocation)) :
    Graph.addInvocations? chain caller owner is g =
        some (Graph.addChildren (Graph.receiverName chain) caller owner is g) ∧
      ∀ g', Graph.addChildren (Graph.receiverName chain) caller owner is g = .ok g' → g'.Coherent := by
  induction is generalizing g with
  | nil => exact ⟨rfl, fun g' h => Except.ok.inj h ▸ hg⟩
  | cons i is ih =>
    unfold Graph.addInvocations? Graph.addChildren
    cases Graph.receiverName chain i with
    | error e =>
      refine ⟨rfl, fun g' h => ?_⟩
      cases h
    | ok name =>
      have hnext : (g.addCallee caller name).1.Coherent := hg.step (.callee caller name)
      simp only [hg.addCallee? caller name]
      cases hstep : g.addCallee caller name with
      | mk g₁ answer =>
        rw [hstep] at hnext
        cases answer with
        | error e =>
          refine ⟨rfl, fun g' h => ?_⟩
          cases h
        | ok j => exact ih hnext

theorem Graph.Coherent.addMethods? {g : Graph} (hg : g.Coherent) (chain : Chain) (methods : List Method) :
    Graph.addMethods? chain (methods.map some) g =
      some (Graph.addParents (fun m => (m.map Method.invocations).getD []) Graph.ownerName
        (Graph.receiverName chain) (methods.map some) g) := by
  induction methods generalizing g with
  | nil => rfl
  | cons method methods ih =>
    rw [List.map_cons]
    unfold Graph.addMethods? Graph.addParents
    have hnext : (g.addCaller method.owner).1.Coherent := hg.step (.caller method.owner)
    simp only [hg.addCaller? method.owner, Graph.ownerName]
    cases hstep : g.addCaller method.owner with
    | mk g₁ answer =>
      rw [hstep] at hnext
      cases answer with
      | error e => rfl
      | ok caller =>
        obtain ⟨hguarded, hcoherent⟩ := hnext.addInvocations? chain caller method.owner method.invocations
        simp only [hguarded, Option.map_some, Option.getD_some]
        cases hchildren : Graph.addChildren (Graph.receiverName chain) caller method.owner
            method.invocations g₁ with
        | error e => rfl
        | ok g₂ => exact ih (hcoherent g₂ hchildren)

/-- **The visit of methods stays inside its tables.** -/
theorem Graph.ofMethods?_eq (methods : List Method) (chain : Chain) :
    Graph.ofMethods? (methods.map some) chain = some (Graph.ofMethods (methods.map some) chain) :=
  Graph.coherent_empty.addMethods? chain methods

/-! ## 2. The guarded document -/

namespace Graph

/-- One record per node, each with a name and a state. -/
def nodeRecords? (g : Graph) : Option (List NodeRecord) :=
  (List.range g.size).mapM fun i =>
    (g.names[i]?).bind fun name =>
      (g.membership[i]?).map fun state => { id := i, name, own := state = .confirmed }

/-- One record per link, each from a caller to a node with a count. -/
def linkRecords? (g : Graph) : Option (List LinkRecord) :=
  (g.callers.mapM fun source =>
    (g.links.lookup source).bind fun targets =>
      targets.mapM fun target =>
        (g.multiplicity[target]?).map fun (m : Nat) =>
          { source, target, weight := Weight.ofCalls m }).map List.flatten

/-- The document, with every access inside its table. -/
def document? (g : Graph) : Option Document :=
  g.nodeRecords?.bind fun nodes => g.linkRecords?.map fun links => { nodes, links }

end Graph

theorem Graph.Coherent.nodeRecords? {g : Graph} (hg : g.Coherent) :
    g.nodeRecords? = some g.nodeRecords := by
  obtain ⟨h, hshows, -⟩ := hg
  rw [Graph.nodeRecords?, Graph.nodeRecords_eq]
  refine mapM_eq_some fun i hi => ?_
  obtain ⟨a, ha⟩ := Graph.getElem?_names_of_lt (List.mem_range.1 hi)
  have hstate : g.membership[i]? = some (g.stateOf i) := by
    simp [hshows.stateOf ha, hshows.membership, ha]
  simp [ha, hstate, Graph.nameOf_of_getElem? ha, Graph.owns]

theorem Graph.Coherent.linkRecords? {g : Graph} (hg : g.Coherent) :
    g.linkRecords? = some g.linkRecords := by
  obtain ⟨h, hshows, hsound⟩ := hg
  have hvalid := hshows.valid hsound
  have hcount : ∀ t < g.size, g.multiplicity[t]? = some (g.multiplicityOf t) := by
    intro t ht
    obtain ⟨b, hb⟩ := Graph.getElem?_names_of_lt ht
    simp [hshows.multiplicityOf hb, hshows.multiplicity, hb]
  have hrows : g.callers.mapM (fun source =>
      (g.links.lookup source).bind fun targets =>
        targets.mapM fun target =>
          (g.multiplicity[target]?).map fun (m : Nat) =>
            ({ source, target, weight := Weight.ofCalls m } : LinkRecord)) =
        some (g.callers.map fun (source : Nat) => (g.calleesOf source).map fun (target : Nat) =>
          { source, target, weight := Weight.ofCalls (g.multiplicityOf target) }) := by
    refine mapM_eq_some fun source hsource => ?_
    -- A caller has an entry, and that entry is what its callees are read from.
    obtain ⟨targets, htargets⟩ := Option.isSome_iff_exists.1 (mem_foldr_insertId.1 hsource)
    have hcallees : g.calleesOf source = targets := by simp [Graph.calleesOf, htargets]
    rw [htargets, Option.bind_some, hcallees]
    refine mapM_eq_some fun target htarget => ?_
    rw [hcount target (hvalid.callees_lt source target (hcallees ▸ htarget))]
    rfl
  rw [Graph.linkRecords?, hrows, Option.map_some, Graph.linkRecords, List.flatMap_def]

theorem Graph.Coherent.document? {g : Graph} (hg : g.Coherent) : g.document? = some g.document := by
  rw [Graph.document?, hg.nodeRecords?, hg.linkRecords?]
  rfl

/-! ## 3. The guarded count -/

namespace Matrix

/-- All cells, row by row, each of which has to be there. -/
def rows? (m : Matrix) : Option (List (List Nat)) :=
  (List.range m.size).mapM fun i => (List.range m.size).mapM (m.cell? i)

/-- Count one invocation, in a cell that has to be there. -/
def increment? (m : Matrix) (row col : Name) : Option (Matrix × Except MatrixError Unit) :=
  match m.index? row, m.index? col with
  | none, _ => some (m, .error (.unknownRow row))
  | some _, none => some (m, .error (.unknownColumn col))
  | some i, some j => (m.cell? i j).map fun _ => (m.bump i j, .ok ())

/-- Add a label, with the counts copied cell by cell. -/
def addLabel? (m : Matrix) (label : Name) : Option Matrix :=
  if m.has label then some m
  else
    m.rows?.map fun rows =>
      { m.enlist label with counts := rows.map (· ++ [0]) ++ [List.replicate (m.size + 1) 0] }

def accept? (policy : Policy) (m : Matrix) (label : Name) :
    Option (Except MatrixError (Option Matrix)) :=
  if m.has label then some (.ok (some m))
  else
    match policy with
    | .grow => (m.addLabel? label).map fun m => .ok (some m)
    | .reject => some (.error (.outOfSet label))
    | .drop => some (.ok none)

def record? (policy : Policy) (m : Matrix) (row col : Name) : Option (Except MatrixError Matrix) :=
  match m.accept? policy row with
  | none => none
  | some (.error e) => some (.error e)
  | some (.ok none) => some (.ok m.drop)
  | some (.ok (some m)) =>
    match m.accept? policy col with
    | none => none
    | some (.error e) => some (.error e)
    | some (.ok none) => some (.ok m.drop)
    | some (.ok (some m)) =>
      match m.increment? row col with
      | none => none
      | some (m, .ok ()) => some (.ok m)
      | some (_, .error e) => some (.error e)

def countInvocations? (chain : Chain) (policy : Policy) (method : Method) :
    List (Option Invocation) → Matrix → Option (Except CouplingError Matrix)
  | [], m => some (.ok m)
  | i :: is, m =>
    match chain.resolve i with
    | .error e => some (.error (.unresolved method.label e))
    | .ok receiver =>
      match m.record? policy method.owner receiver with
      | none => none
      | some (.error e) => some (.error (.uncounted method.label e))
      | some (.ok m) => countInvocations? chain policy method is m

/-- Count the invocations of methods, none of which may be null. -/
def countMethods? (chain : Chain) (policy : Policy) :
    List (Option Method) → Matrix → Option (Except CouplingError Matrix)
  | [], m => some (.ok m)
  | none :: _, _ => none
  | some method :: rest, m =>
    match countInvocations? chain policy method method.invocations m with
    | none => none
    | some (.error e) => some (.error e)
    | some (.ok m) => countMethods? chain policy rest m

/-- The coupling matrix, with every access inside its table and no null type or method. -/
def build? (types : List (Option TypeDecl)) (methods : List (Option Method)) (chain : Chain)
    (policy : Policy) : Option (Except CouplingError Matrix) :=
  (declaredLabels types).bind fun labels => countMethods? chain policy methods (ofLabels labels)

/-- The undirected strength between two places that have to be there. -/
def strength? (m : Matrix) (i j : Nat) : Option Nat :=
  if i = j then m.cell? i i
  else (m.cell? i j).bind fun forward => (m.cell? j i).map fun backward => forward + backward

/-- The undirected table, with every access inside the matrix. -/
def table? (m : Matrix) : Option Table :=
  ((List.range m.size).mapM fun i => (List.range m.size).mapM (m.strength? i)).map fun values =>
    { labels := m.labels, values }

end Matrix

/-- A square over its labels, with an index that stays inside. -/
def Matrix.Square (m : Matrix) : Prop := ∃ f, m.Shows f

theorem Matrix.Square.cell? {m : Matrix} (hm : m.Square) {i j : Nat} (hi : i < m.size)
    (hj : j < m.size) : m.cell? i j = some (m.cell i j) := by
  obtain ⟨f, hf⟩ := hm
  obtain ⟨a, ha⟩ : ∃ a, m.labels[i]? = some a := ⟨m.labels[i], List.getElem?_eq_getElem hi⟩
  obtain ⟨b, hb⟩ : ∃ b, m.labels[j]? = some b := ⟨m.labels[j], List.getElem?_eq_getElem hj⟩
  simp [Matrix.cell?, hf.cell ha hb, hf.counts, ha, hb]

theorem Matrix.Square.index_lt {m : Matrix} (hm : m.Square) {a : Name} {i : Nat}
    (hi : m.index? a = some i) : i < m.size := by
  obtain ⟨f, hf⟩ := hm
  exact (List.getElem?_eq_some_iff.1 ((hf.indexed a i).1 hi)).1

/-- Copying the cells one by one copies the counts. -/
theorem Matrix.Square.rows? {m : Matrix} (hm : m.Square) : m.rows? = some m.counts := by
  have hcells : m.rows? = some ((List.range m.size).map fun i => (List.range m.size).map (m.cell i)) := by
    refine mapM_eq_some fun i hi => mapM_eq_some fun j hj => ?_
    exact hm.cell? (List.mem_range.1 hi) (List.mem_range.1 hj)
  obtain ⟨f, hf⟩ := hm
  rw [hcells, hf.counts_eq_cells]

theorem Matrix.square_ofLabels (labels : List Name) : (Matrix.ofLabels labels).Square :=
  ⟨_, Matrix.shows_ofLabels labels⟩

theorem Matrix.Square.drop {m : Matrix} (hm : m.Square) : m.drop.Square := by
  obtain ⟨f, hf⟩ := hm
  exact ⟨f, hf.indexed, hf.counts⟩

theorem Matrix.Square.addLabel {m : Matrix} (hm : m.Square) (l : Name) : (m.addLabel l).Square := by
  obtain ⟨f, hf⟩ := hm
  -- Outside the labels the tabulated function does not matter, so it may be zero there.
  have hzero : m.Shows fun a b => if a ∈ m.labels ∧ b ∈ m.labels then f a b else 0 :=
    hf.congr fun a ha b hb => (if_pos ⟨ha, hb⟩).symm
  refine ⟨_, hzero.addLabel fun hl a => ?_⟩
  simp [hl]

theorem Matrix.Square.increment {m : Matrix} (hm : m.Square) (row col : Name) :
    m.increment? row col = some (m.increment row col) ∧ (m.increment row col).1.Square := by
  unfold Matrix.increment? Matrix.increment
  cases hrow : m.index? row with
  | none => exact ⟨rfl, hm⟩
  | some i =>
    cases hcol : m.index? col with
    | none => exact ⟨rfl, hm⟩
    | some j =>
      refine ⟨?_, ?_⟩
      · show (m.cell? i j).map _ = _
        rw [hm.cell? (hm.index_lt hrow) (hm.index_lt hcol)]
        rfl
      · obtain ⟨f, hf⟩ := hm
        exact ⟨_, hf.bump ((hf.indexed row i).1 hrow) ((hf.indexed col j).1 hcol)⟩

theorem Matrix.Square.accept {m : Matrix} (hm : m.Square) (policy : Policy) (l : Name) :
    m.accept? policy l = some (m.accept policy l) ∧
      ∀ m', m.accept policy l = .ok (some m') → m'.Square := by
  unfold Matrix.accept? Matrix.accept
  by_cases hl : m.has l = true
  · rw [if_pos hl, if_pos hl]
    exact ⟨rfl, fun m' h => Option.some.inj (Except.ok.inj h) ▸ hm⟩
  · rw [if_neg hl, if_neg hl]
    cases policy with
    | drop => exact ⟨rfl, nofun⟩
    | reject => exact ⟨rfl, nofun⟩
    | grow =>
      refine ⟨?_, fun m' h => Option.some.inj (Except.ok.inj h) ▸ hm.addLabel l⟩
      show (m.addLabel? l).map _ = _
      simp only [Matrix.addLabel?, Matrix.addLabel, if_neg hl, hm.rows?, Option.map_some]

theorem Matrix.Square.record {m : Matrix} (hm : m.Square) (policy : Policy) (row col : Name) :
    m.record? policy row col = some (m.record policy row col) ∧
      ∀ m', m.record policy row col = .ok m' → m'.Square := by
  unfold Matrix.record? Matrix.record
  obtain ⟨hguarded, hsquare⟩ := hm.accept policy row
  rw [hguarded]
  cases hrow : m.accept policy row with
  | error e => exact ⟨rfl, nofun⟩
  | ok accepted =>
    cases accepted with
    | none => exact ⟨rfl, fun m' h => Except.ok.inj h ▸ hm.drop⟩
    | some m₁ =>
      have hm₁ := hsquare m₁ hrow
      obtain ⟨hguarded₁, hsquare₁⟩ := hm₁.accept policy col
      simp only [hguarded₁]
      cases hcol : m₁.accept policy col with
      | error e => exact ⟨rfl, nofun⟩
      | ok accepted₁ =>
        cases accepted₁ with
        | none => exact ⟨rfl, fun m' h => Except.ok.inj h ▸ hm₁.drop⟩
        | some m₂ =>
          obtain ⟨hguarded₂, hm₃⟩ := (hsquare₁ m₂ hcol).increment row col
          simp only [hguarded₂]
          cases hinc : m₂.increment row col with
          | mk m₃ answer =>
            rw [hinc] at hm₃
            cases answer with
            | error e => exact ⟨rfl, nofun⟩
            | ok u => exact ⟨rfl, fun m' h => Except.ok.inj h ▸ hm₃⟩

theorem Matrix.Square.countInvocations {m : Matrix} (hm : m.Square) (chain : Chain) (policy : Policy)
    (method : Method) (is : List (Option Invocation)) :
    Matrix.countInvocations? chain policy method is m =
        some (Matrix.countInvocations chain policy method is m) ∧
      ∀ m', Matrix.countInvocations chain policy method is m = .ok m' → m'.Square := by
  induction is generalizing m with
  | nil => exact ⟨rfl, fun m' h => Except.ok.inj h ▸ hm⟩
  | cons i is ih =>
    unfold Matrix.countInvocations? Matrix.countInvocations Matrix.countInvocation
    cases chain.resolve i with
    | error e =>
      refine ⟨rfl, fun m' h => ?_⟩
      cases h
    | ok receiver =>
      obtain ⟨hguarded, hsquare⟩ := hm.record policy method.owner receiver
      simp only [hguarded]
      cases hrecord : m.record policy method.owner receiver with
      | error e =>
        refine ⟨rfl, fun m' h => ?_⟩
        cases h
      | ok m₁ => exact ih (hsquare m₁ hrecord)

theorem Matrix.Square.countMethods {m : Matrix} (hm : m.Square) (chain : Chain) (policy : Policy)
    (methods : List Method) :
    Matrix.countMethods? chain policy (methods.map some) m =
        some (Matrix.countMethods chain policy (methods.map some) m) ∧
      ∀ m', Matrix.countMethods chain policy (methods.map some) m = .ok m' → m'.Square := by
  induction methods generalizing m with
  | nil => exact ⟨rfl, fun m' h => Except.ok.inj h ▸ hm⟩
  | cons method methods ih =>
    rw [List.map_cons]
    unfold Matrix.countMethods? Matrix.countMethods
    obtain ⟨hguarded, hsquare⟩ := hm.countInvocations chain policy method method.invocations
    simp only [hguarded]
    cases hcount : Matrix.countInvocations chain policy method method.invocations m with
    | error e => exact ⟨rfl, nofun⟩
    | ok m₁ => exact ih (hsquare m₁ hcount)

/-- **The count of a model stays inside its tables**, and leaves a square. -/
theorem Matrix.build?_eq (types : List TypeDecl) (methods : List Method) (chain : Chain)
    (policy : Policy) :
    Matrix.build? (types.map some) (methods.map some) chain policy =
        some (Matrix.build (types.map some) (methods.map some) chain policy) ∧
      ∀ m, Matrix.build (types.map some) (methods.map some) chain policy = .ok m → m.Square := by
  unfold Matrix.build? Matrix.build
  rw [Matrix.declaredLabels_map_some]
  exact (Matrix.square_ofLabels _).countMethods chain policy methods

/-- **The table of a square is read inside it.** -/
theorem Matrix.Square.table? {m : Matrix} (hm : m.Square) : m.table? = some m.table := by
  have hstrength : ∀ i < m.size, ∀ j < m.size, m.strength? i j = some (m.strength i j) := by
    intro i hi j hj
    unfold Matrix.strength? Matrix.strength
    by_cases hij : i = j
    · rw [if_pos hij, if_pos hij]
      exact hm.cell? hi hi
    · rw [if_neg hij, if_neg hij, hm.cell? hi hj, hm.cell? hj hi]
      rfl
  have hvalues : ((List.range m.size).mapM fun i => (List.range m.size).mapM (m.strength? i)) =
      some ((List.range m.size).map fun i => (List.range m.size).map (m.strength i)) := by
    refine mapM_eq_some fun i hi => mapM_eq_some fun j hj => ?_
    exact hstrength i (List.mem_range.1 hi) j (List.mem_range.1 hj)
  rw [Matrix.table?, hvalues]
  rfl

end CallCoupling
