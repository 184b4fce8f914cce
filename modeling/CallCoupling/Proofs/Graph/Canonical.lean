import CallCoupling.Proofs.Graph.Document

/-!
# A document is canonical and loses nothing

The document of a graph is written from tables whose order is an accident of how the graph was built. What is
written is not: nodes go by id and links by source and then by target, each once. This needs one more fact about
the table of links, that every entry is in ascending order (`Graph.Ascending`); the sources are sorted when they
are read.

Nothing is lost either. A document does not list counts of call sites, and it does not list callers that call
nothing, but both can be had back:

* a node that is the target of a link shows its count in the weight of that link, and one that is not has none;
* a caller, calling or not, is a node of the project, and every other node is known as a callee only.

So graphs with the same document answer every question alike (`Graph.Alike`). Weights are read as exact numbers
here, two over one more than the count (`Weight.value`).
-/

set_option autoImplicit false

namespace CallCoupling

/-! ## 1. Entries of the table of links -/

/-- The targets of each caller are listed in ascending order. -/
def Graph.Ascending (g : Graph) : Prop := ∀ entry ∈ g.links, entry.2.Pairwise (· < ·)

theorem insertId_pairwise {x : Nat} {ys : List Nat} (hys : ys.Pairwise (· < ·)) :
    (insertId x ys).Pairwise (· < ·) := by
  induction ys with
  | nil => exact List.pairwise_singleton _ _
  | cons y ys ih =>
    obtain ⟨hy, hrest⟩ := List.pairwise_cons.1 hys
    unfold insertId
    split
    · rename_i hxy
      refine List.pairwise_cons.2 ⟨?_, hys⟩
      intro z hz
      rcases List.mem_cons.1 hz with rfl | hz
      · exact hxy
      · exact hxy.trans (hy z hz)
    · split
      · exact hys
      · rename_i hxy hne
        refine List.pairwise_cons.2 ⟨?_, ih hrest⟩
        intro z hz
        rcases mem_insertId.1 hz with rfl | hz
        · omega
        · exact hy z hz

theorem Graph.Ascending.openLinks {g : Graph} (hg : g.Ascending) (i : Nat) :
    (g.openLinks i).Ascending := by
  unfold Graph.openLinks
  split
  · exact hg
  · intro entry hentry
    rcases List.mem_cons.1 hentry with rfl | hentry
    · exact List.Pairwise.nil
    · exact hg entry hentry

theorem Graph.Ascending.link {g : Graph} (hg : g.Ascending) (i j : Nat) : (g.link i j).Ascending := by
  intro entry hentry
  obtain ⟨old, hold, rfl⟩ := List.mem_map.1 hentry
  dsimp only
  split
  · exact insertId_pairwise (hg old hold)
  · exact hg old hold

/-- The table of links is in order: no caller twice, and no target out of place. -/
structure Graph.Tidy (g : Graph) : Prop where
  keyed : g.Keyed
  ascending : g.Ascending

theorem Graph.Tidy.addCaller {g : Graph} (hg : g.Tidy) (a : Name) : (g.addCaller a).1.Tidy := by
  refine ⟨hg.keyed.addCaller a, ?_⟩
  unfold Graph.addCaller
  split
  · exact hg.ascending
  · refine Graph.Ascending.openLinks ?_ _
    show ∀ entry ∈ (g.ensure a).1.links, _
    rw [Graph.links_ensure]
    exact hg.ascending

theorem Graph.Tidy.addCallee {g : Graph} (hg : g.Tidy) (caller : Int) (a : Name) :
    (g.addCallee caller a).1.Tidy := by
  refine ⟨hg.keyed.addCallee caller a, ?_⟩
  unfold Graph.addCallee
  split
  · exact hg.ascending
  · split
    · exact hg.ascending
    · refine Graph.Ascending.link ?_ _ _
      show ∀ entry ∈ (g.ensure a).1.links, _
      rw [Graph.links_ensure]
      exact hg.ascending

theorem Graph.Tidy.step {g : Graph} (hg : g.Tidy) (s : GraphStep) : (g.step s).1.Tidy := by
  cases s with
  | caller a => exact hg.addCaller a
  | callee caller a => exact hg.addCallee caller a

theorem Graph.Tidy.run {g : Graph} (hg : g.Tidy) (steps : List GraphStep) : (g.run steps).1.Tidy := by
  induction steps generalizing g with
  | nil => exact hg
  | cons s steps ih => exact ih (hg.step s)

theorem Graph.tidy_empty : Graph.Tidy {} := ⟨Graph.keyed_empty, nofun⟩

theorem Graph.pairwise_callers (g : Graph) : g.callers.Pairwise (· < ·) := by
  unfold Graph.callers
  induction g.links with
  | nil => exact List.Pairwise.nil
  | cons link links ih => exact insertId_pairwise ih

theorem Graph.Tidy.pairwise_calleesOf {g : Graph} (hg : g.Tidy) (i : Int) :
    (g.calleesOf i).Pairwise (· < ·) := by
  unfold Graph.calleesOf Graph.callees?
  split
  · exact List.Pairwise.nil
  · cases hi : g.links.lookup i.toNat with
    | none => exact List.Pairwise.nil
    | some targets =>
      obtain ⟨before, after, hlinks, -⟩ := List.lookup_eq_some_iff.1 hi
      have hmem : (i.toNat, targets) ∈ g.links := by simp [hlinks]
      exact hg.ascending _ hmem

/-! ## 2. Records -/

/-- One link comes before another: by its source, then by its target. -/
def LinkRecord.Before (l k : LinkRecord) : Prop :=
  l.source < k.source ∨ (l.source = k.source ∧ l.target < k.target)

theorem Graph.nodeRecords_eq (g : Graph) :
    g.nodeRecords = (List.range g.size).map fun (i : Nat) => ⟨i, g.nameOf i, g.owns i⟩ := by
  apply List.ext_getElem?
  intro i
  rw [Graph.nodeRecords, List.getElem?_map, List.getElem?_map, List.getElem?_zipIdx]
  cases hi : g.names[i]? with
  | none =>
    have hout : g.size ≤ i := List.getElem?_eq_none_iff.1 hi
    simp [hout]
  | some a =>
    have hlt : i < g.size := Graph.lt_size_of_getElem? hi
    simp [hlt, Graph.nameOf_of_getElem? hi]

theorem Graph.mem_callers_of_mem_calleesOf {g : Graph} {c t : Nat} (ht : t ∈ g.calleesOf c) :
    c ∈ g.callers := by
  unfold Graph.callers
  rw [mem_foldr_insertId]
  unfold Graph.calleesOf at ht
  rw [Graph.callees?_natCast] at ht
  cases hc : g.links.lookup c with
  | none => simp [hc] at ht
  | some targets => rfl

theorem Graph.mem_linkRecords {g : Graph} {l : LinkRecord} :
    l ∈ g.linkRecords ↔
      l.target ∈ g.calleesOf l.source ∧ l.weight = Weight.ofCalls (g.multiplicityOf l.target) := by
  simp only [Graph.linkRecords, List.mem_flatMap, List.mem_map]
  constructor
  · rintro ⟨c, -, t, ht, rfl⟩
    exact ⟨ht, rfl⟩
  · rintro ⟨ht, hweight⟩
    refine ⟨l.source, Graph.mem_callers_of_mem_calleesOf ht, l.target, ht, ?_⟩
    rw [← hweight]

/-- **Links are listed in strictly increasing order.** -/
theorem Graph.Tidy.pairwise_linkRecords {g : Graph} (hg : g.Tidy) :
    g.linkRecords.Pairwise LinkRecord.Before := by
  refine List.pairwise_flatMap.2 ⟨?_, ?_⟩
  · intro c _
    refine List.pairwise_map.2 ((hg.pairwise_calleesOf c).imp ?_)
    intro t u htu
    exact Or.inr ⟨rfl, htu⟩
  · refine g.pairwise_callers.imp ?_
    intro c d hcd l hl k hk
    obtain ⟨t, -, rfl⟩ := List.mem_map.1 hl
    obtain ⟨u, -, rfl⟩ := List.mem_map.1 hk
    exact Or.inl hcd

/-- In a list that increases, a pair of ids comes up once if it comes up at all. -/
theorem countP_of_pairwise_before {links : List LinkRecord} (hlinks : links.Pairwise LinkRecord.Before)
    (c t : Nat) :
    links.countP (fun l => l.source = c ∧ l.target = t) =
      if ∃ l ∈ links, l.source = c ∧ l.target = t then 1 else 0 := by
  induction links with
  | nil => rfl
  | cons l links ih =>
    obtain ⟨hfirst, hrest⟩ := List.pairwise_cons.1 hlinks
    rw [List.countP_cons, ih hrest]
    by_cases hl : l.source = c ∧ l.target = t
    · have hnone : ¬ ∃ k ∈ links, k.source = c ∧ k.target = t := by
        rintro ⟨k, hk, hsource, htarget⟩
        rcases hfirst k hk with hlt | ⟨-, hlt⟩
        · omega
        · omega
      rw [if_neg hnone]
      simp [hl]
    · simp [hl]

/-- **The document lists each link of the graph once**, and nothing else. -/
theorem Graph.Tidy.countP_linkRecords {g : Graph} (hg : g.Tidy) (c t : Nat) :
    g.linkRecords.countP (fun l => l.source = c ∧ l.target = t) =
      if t ∈ g.calleesOf c then 1 else 0 := by
  have hsome : (∃ l ∈ g.linkRecords, l.source = c ∧ l.target = t) ↔ t ∈ g.calleesOf c := by
    constructor
    · rintro ⟨l, hl, rfl, rfl⟩
      exact (Graph.mem_linkRecords.1 hl).1
    · intro ht
      exact ⟨⟨c, t, Weight.ofCalls (g.multiplicityOf t)⟩, Graph.mem_linkRecords.2 ⟨ht, rfl⟩, rfl, rfl⟩
  rw [countP_of_pairwise_before hg.pairwise_linkRecords, if_congr hsome rfl rfl]

theorem Graph.Valid.multiplicity_pos {g : Graph} (hg : g.Valid) {c t : Nat} (ht : t ∈ g.calleesOf c) :
    1 ≤ g.multiplicityOf t := by
  have hlt : t < g.size := hg.callees_lt c t ht
  have hne : g.multiplicityOf t ≠ 0 := by
    intro hzero
    exact (hg.multiplicity_eq_zero_iff t hlt).1 hzero c (Graph.mem_callers_of_mem_calleesOf ht) ht
  omega

/-! ## 3. What can be read back -/

/-- The weight as an exact number. -/
def Weight.value (w : Weight) : ℚ := 2 / w.denominator

theorem Weight.value_ofCalls (m : Nat) : (Weight.ofCalls m).value = 2 / (m + 1) := by
  simp [Weight.value, Weight.ofCalls]

theorem Weight.value_ofCalls_inj {m n : Nat} (h : (Weight.ofCalls m).value = (Weight.ofCalls n).value) :
    m = n := by
  rw [Weight.value_ofCalls, Weight.value_ofCalls] at h
  have hm : (m : ℚ) + 1 ≠ 0 := by positivity
  have hn : (n : ℚ) + 1 ≠ 0 := by positivity
  rw [div_eq_div_iff hm hn] at h
  have hmn : (m : ℚ) = n := by linarith
  exact_mod_cast hmn

/-- A link with its weight as an exact number. -/
def LinkRecord.reading (l : LinkRecord) : Nat × Nat × ℚ := (l.source, l.target, l.weight.value)

/-- What is read in a document: its nodes, and its links with exact weights. -/
def Document.reading (d : Document) : List NodeRecord × List (Nat × Nat × ℚ) :=
  (d.nodes, d.links.map LinkRecord.reading)

/-- **Two graphs answer every question alike**, also about names and ids that they do not know. -/
structure Graph.Alike (g g' : Graph) : Prop where
  size : g.size = g'.size
  id? : ∀ a : Name, g.id? a = g'.id? a
  nameOf : ∀ i : Int, g.nameOf i = g'.nameOf i
  stateOf : ∀ i : Int, g.stateOf i = g'.stateOf i
  multiplicityOf : ∀ i : Int, g.multiplicityOf i = g'.multiplicityOf i
  callers : g.callers = g'.callers
  calleesOf : ∀ i : Int, g.calleesOf i = g'.calleesOf i

theorem Graph.mem_reading {g : Graph} {c t : Nat} {w : ℚ} :
    (c, t, w) ∈ g.document.reading.2 ↔
      t ∈ g.calleesOf c ∧ w = (Weight.ofCalls (g.multiplicityOf t)).value := by
  show (c, t, w) ∈ g.linkRecords.map LinkRecord.reading ↔ _
  rw [List.mem_map]
  constructor
  · rintro ⟨l, hl, hread⟩
    obtain ⟨ht, hweight⟩ := Graph.mem_linkRecords.1 hl
    simp only [LinkRecord.reading, Prod.mk.injEq] at hread
    obtain ⟨rfl, rfl, rfl⟩ := hread
    exact ⟨ht, by rw [hweight]⟩
  · rintro ⟨ht, rfl⟩
    exact ⟨⟨c, t, _⟩, Graph.mem_linkRecords.2 ⟨ht, rfl⟩, rfl⟩

theorem Graph.names_of_reading {g g' : Graph} (h : g.document.reading = g'.document.reading) :
    g.names = g'.names := by
  have hnames : ∀ g : Graph, g.document.reading.1.map NodeRecord.name = g.names := by
    intro g
    show g.nodeRecords.map NodeRecord.name = g.names
    rw [Graph.nodeRecords, List.map_map]
    exact List.zipIdx_map_fst 0 g.names
  rw [← hnames g, ← hnames g', h]

theorem Graph.owns_of_reading {g g' : Graph} (h : g.document.reading = g'.document.reading) {i : Nat}
    (hi : i < g.size) : g.owns i = g'.owns i := by
  have hsize : g.size = g'.size := congrArg List.length (Graph.names_of_reading h)
  have hnodes : g.nodeRecords = g'.nodeRecords := congrArg Prod.fst h
  rw [Graph.nodeRecords_eq, Graph.nodeRecords_eq] at hnodes
  have hget := congrArg (·[i]?) hnodes
  simpa [hi, hsize ▸ hi] using congrArg (Option.map NodeRecord.own) hget

/-- What is shown of a node that is in no table. -/
theorem Graph.Valid.outside {g : Graph} (hg : g.Valid) {i : Nat} (hi : g.size ≤ i) :
    g.stateOf i = .unseen ∧ g.multiplicityOf i = 0 := by
  have hmembership : g.membership[i]? = none := List.getElem?_eq_none (hg.membership_length ▸ hi)
  have hmultiplicity : g.multiplicity[i]? = none := List.getElem?_eq_none (hg.multiplicity_length ▸ hi)
  simp [Graph.stateOf, Graph.multiplicityOf, hmembership, hmultiplicity]

/-- A node in the tables is confirmed or a callee only, and its record tells which. -/
theorem Graph.Valid.stateOf_eq {g : Graph} (hg : g.Valid) {i : Nat} (hi : i < g.size) :
    g.stateOf i = if g.owns i then .confirmed else .calleeOnly := by
  have hseen : g.stateOf i ≠ .unseen := hg.seen i (Int.natCast_nonneg i) (Int.ofNat_lt.2 hi)
  unfold Graph.owns
  cases hstate : g.stateOf i with
  | unseen => exact absurd hstate hseen
  | calleeOnly => simp
  | confirmed => simp

theorem Graph.Valid.stateOf_of_reading {g g' : Graph} (hg : g.Valid) (hg' : g'.Valid)
    (h : g.document.reading = g'.document.reading) (i : Nat) : g.stateOf i = g'.stateOf i := by
  have hsize : g.size = g'.size := congrArg List.length (Graph.names_of_reading h)
  by_cases hi : i < g.size
  · rw [hg.stateOf_eq hi, hg'.stateOf_eq (hsize ▸ hi), Graph.owns_of_reading h hi]
  · rw [(hg.outside (Nat.le_of_not_lt hi)).1, (hg'.outside (hsize ▸ Nat.le_of_not_lt hi)).1]

theorem Graph.mem_calleesOf_of_reading {g g' : Graph} (h : g.document.reading = g'.document.reading)
    (c t : Nat) : t ∈ g.calleesOf c ↔ t ∈ g'.calleesOf c := by
  constructor
  · intro ht
    have hmem := Graph.mem_reading.2 ⟨ht, rfl⟩
    rw [h] at hmem
    exact (Graph.mem_reading.1 hmem).1
  · intro ht
    have hmem := Graph.mem_reading.2 ⟨ht, rfl⟩
    rw [← h] at hmem
    exact (Graph.mem_reading.1 hmem).1

/-- A node that is called shows its count in the weight of a link to it; any other node has none. -/
theorem Graph.Valid.multiplicityOf_of_reading {g g' : Graph} (hg : g.Valid) (hg' : g'.Valid)
    (h : g.document.reading = g'.document.reading) (t : Nat) :
    g.multiplicityOf t = g'.multiplicityOf t := by
  have hsize : g.size = g'.size := congrArg List.length (Graph.names_of_reading h)
  by_cases hcalled : ∃ c : Nat, t ∈ g.calleesOf c
  · obtain ⟨c, ht⟩ := hcalled
    have hmem := Graph.mem_reading.2 ⟨ht, rfl⟩
    rw [h] at hmem
    exact Weight.value_ofCalls_inj (Graph.mem_reading.1 hmem).2
  · have hnone : ∀ c : Nat, t ∉ g.calleesOf c := fun c ht => hcalled ⟨c, ht⟩
    have hnone' : ∀ c : Nat, t ∉ g'.calleesOf c := fun c ht =>
      hnone c ((Graph.mem_calleesOf_of_reading h c t).2 ht)
    by_cases ht : t < g.size
    · rw [(hg.multiplicity_eq_zero_iff t ht).2 fun c _ => hnone c,
        (hg'.multiplicity_eq_zero_iff t (hsize ▸ ht)).2 fun c _ => hnone' c]
    · rw [(hg.outside (Nat.le_of_not_lt ht)).2, (hg'.outside (hsize ▸ Nat.le_of_not_lt ht)).2]

theorem Graph.Valid.callers_of_reading {g g' : Graph} (hg : g.Valid) (hg' : g'.Valid)
    (h : g.document.reading = g'.document.reading) : g.callers = g'.callers := by
  refine g.pairwise_callers.eq_of_mem_iff g'.pairwise_callers ?_
  have hcaller : ∀ {g : Graph}, g.Valid → ∀ c : Nat, c ∈ g.callers ↔ g.stateOf c = .confirmed := by
    intro g hg c
    have howns := hg.owns_iff c
    rw [Graph.owns, decide_eq_true_iff] at howns
    rw [howns]
    constructor
    · intro hc
      exact ⟨c, hc, rfl⟩
    · rintro ⟨d, hd, hdc⟩
      exact Int.ofNat_inj.1 hdc ▸ hd
  intro c
  rw [hcaller hg, hcaller hg', hg.stateOf_of_reading hg' h]

/-- **Graphs with the same document are alike.** -/
theorem Graph.Valid.alike {g g' : Graph} (hg : g.Valid) (hg' : g'.Valid) (htidy : g.Tidy)
    (htidy' : g'.Tidy) (h : g.document.reading = g'.document.reading) : g.Alike g' where
  size := congrArg List.length (Graph.names_of_reading h)
  id? := by
    intro a
    have hnames := Graph.names_of_reading h
    -- A name has the id at which it stands, and it stands at the same place in both.
    have hplaces : (g.id? a).map Int.ofNat = (g'.id? a).map Int.ofNat := by
      ext i
      rw [hg.id?_eq_some_iff, hg'.id?_eq_some_iff, Graph.size, Graph.size, Graph.nameOf, Graph.nameOf,
        hnames]
    exact Option.map_injective (fun _ _ => Int.ofNat.inj) hplaces
  nameOf := by
    intro i
    rw [Graph.nameOf, Graph.nameOf, Graph.names_of_reading h]
  stateOf := by
    intro i
    cases i with
    | ofNat i => exact hg.stateOf_of_reading hg' h i
    | negSucc i => simp [Graph.stateOf]
  multiplicityOf := by
    intro i
    cases i with
    | ofNat i => exact hg.multiplicityOf_of_reading hg' h i
    | negSucc i => simp [Graph.multiplicityOf]
  callers := hg.callers_of_reading hg' h
  calleesOf := by
    intro i
    cases i with
    | ofNat i =>
      exact (htidy.pairwise_calleesOf i).eq_of_mem_iff (htidy'.pairwise_calleesOf i)
        (Graph.mem_calleesOf_of_reading h i)
    | negSucc i => simp [Graph.calleesOf]

/-! ## 4. Documents of reachable graphs -/

/-- **The document is the canonical account of the graph.** -/
structure Graph.Accounts (g : Graph) (d : Document) : Prop where
  nodes : d.nodes = (List.range g.size).map fun (i : Nat) => ⟨i, g.nameOf i, g.owns i⟩
  increasing : d.links.Pairwise LinkRecord.Before
  once : ∀ c t : Nat, d.links.countP (fun l => l.source = c ∧ l.target = t) =
    if t ∈ g.calleesOf c then 1 else 0
  length : d.links.length = g.linkCount
  weight : ∀ l ∈ d.links,
    l.weight = Weight.ofCalls (g.multiplicityOf l.target) ∧ 1 ≤ g.multiplicityOf l.target

theorem Graph.Valid.accounts {g : Graph} (hg : g.Valid) (htidy : g.Tidy) : g.Accounts g.document where
  nodes := g.nodeRecords_eq
  increasing := htidy.pairwise_linkRecords
  once := htidy.countP_linkRecords
  length := htidy.keyed.length_linkRecords
  weight := by
    intro l hl
    obtain ⟨ht, hweight⟩ := Graph.mem_linkRecords.1 hl
    exact ⟨hweight, hg.multiplicity_pos ht⟩

theorem Graph.valid_run (steps : List GraphStep) :
    (Graph.run {} steps).1.Valid ∧ (Graph.run {} steps).1.Tidy := by
  have hempty : Graph.Shows {} (History.picture []) := Graph.shows_empty rfl
  obtain ⟨h, hg, hs, -⟩ := hempty.run History.sound_nil steps
  exact ⟨hg.valid hs, Graph.tidy_empty.run steps⟩

/-- **A document is canonical and loses nothing.** Of every graph that steps can make it is the canonical
    account, with weights that are two over one more than the count of the target; and two such graphs whose
    documents read the same answer every question alike. -/
theorem Graph.document_canonical (steps steps' : List GraphStep) :
    let g := (Graph.run {} steps).1
    let g' := (Graph.run {} steps').1
    g.Accounts g.document ∧
      (∀ l ∈ g.document.links, l.weight.value = 2 / (g.multiplicityOf l.target + 1)) ∧
      (g.document.reading = g'.document.reading → g.Alike g') := by
  intro g g'
  obtain ⟨hg, htidy⟩ := Graph.valid_run steps
  obtain ⟨hg', htidy'⟩ := Graph.valid_run steps'
  refine ⟨hg.accounts htidy, ?_, hg.alike hg' htidy htidy'⟩
  intro l hl
  rw [(Graph.mem_linkRecords.1 hl).2, Weight.value_ofCalls]

/-- A caller that is called twice by itself and once by another, made in two ways: with the calls of one caller
    together, and with the calls mixed and failed steps between them. -/
theorem Graph.document_canonical_of_mixed_steps :
    let a : Name := [.char 'A']
    let b : Name := [.char 'B']
    let steps : List GraphStep :=
      [.caller a, .callee 0 a, .callee 0 b, .callee 0 a, .caller b, .callee 1 a]
    let steps' : List GraphStep :=
      [.caller a, .callee 0 b, .callee 3 b, .callee 0 a, .caller b, .callee 1 a, .caller [], .callee 0 a]
    let g := (Graph.run {} steps).1
    let g' := (Graph.run {} steps').1
    g.document.reading = g'.document.reading ∧ g.Alike g' ∧ g.multiplicityOf 0 = 3 := by
  intro a b steps steps' g g'
  have hread : g.document.reading = g'.document.reading := by
    have hdoc : g.document = g'.document := by decide
    rw [hdoc]
  exact ⟨hread, (Graph.document_canonical steps steps').2.2 hread, by decide⟩

end CallCoupling
