import CallCoupling.Proofs.Graph.Canonical

/-!
# A step changes what it names, or nothing

Here the five tables are looked at across one step. A step that is refused leaves the graph as it was, and it
is refused for one of two reasons only: its name is empty, or it relies on a caller that no earlier step has
added. A step that is answered with an id `i` changes the row of `i` and the links of the calling node:

* `Graph.Changed` says what every reader answers after the step, in terms of what it answered before. It has no
  clause for "and nothing else", because each clause speaks of all ids.
* `Graph.Precedes` is what follows for the order of time: what was known stays known, and states and counts
  never go back. It is a preorder, so it holds across whole runs (`Graph.precedes_run`).

The readers are followed through the writes of a step one by one (section 2); most of these lemmas are `rfl`,
because a write leaves the other tables alone.
-/

set_option autoImplicit false

namespace CallCoupling

/-! ## 1. Steps and what they change -/

namespace GraphStep

def name : GraphStep → Name
  | .caller a => a
  | .callee _ a => a

/-- The caller that the step relies on. -/
def source? : GraphStep → Option Int
  | .caller _ => none
  | .callee c _ => some c

def role : GraphStep → Membership
  | .caller _ => .confirmed
  | .callee _ _ => .calleeOnly

end GraphStep

/-- **The graph `g'` is `g` after a step that was answered with `i`.** -/
structure Graph.Changed (g g' : Graph) (s : GraphStep) (i : Nat) : Prop where
  placed : (g.id? s.name = some i ∧ g'.size = g.size) ∨
    (g.id? s.name = none ∧ i = g.size ∧ g'.size = g.size + 1)
  id? : ∀ a, g'.id? a = if a = s.name then some i else g.id? a
  nameOf : ∀ k : Int, g'.nameOf k = if k = i then s.name else g.nameOf k
  stateOf : ∀ k : Int, g'.stateOf k = if k = i then (g.stateOf k).promote s.role else g.stateOf k
  multiplicityOf : ∀ k : Int,
    g'.multiplicityOf k = if k = i ∧ s.isCallee then g.multiplicityOf k + 1 else g.multiplicityOf k
  mem_callers : ∀ c, c ∈ g'.callers ↔ c ∈ g.callers ∨ (s.source? = none ∧ c = i)
  calleesOf : ∀ k : Int,
    g'.calleesOf k = if s.source? = some k then insertId i (g.calleesOf k) else g.calleesOf k
  linkCount : g'.linkCount =
    if ∃ c, s.source? = some c ∧ i ∉ g.calleesOf c then g.linkCount + 1 else g.linkCount

/-- Everything that `g` knows, `g'` knows too. -/
structure Graph.Precedes (g g' : Graph) : Prop where
  size : g.size ≤ g'.size
  id? : ∀ a i, g.id? a = some i → g'.id? a = some i
  nameOf : ∀ k : Int, 0 ≤ k → k < g.size → g'.nameOf k = g.nameOf k
  stateOf : ∀ k : Int, (g.stateOf k).rank ≤ (g'.stateOf k).rank
  multiplicityOf : ∀ k : Int, g.multiplicityOf k ≤ g'.multiplicityOf k
  callers : ∀ c ∈ g.callers, c ∈ g'.callers
  calleesOf : ∀ k : Int, ∀ t ∈ g.calleesOf k, t ∈ g'.calleesOf k

theorem Graph.Precedes.refl (g : Graph) : g.Precedes g where
  size := Nat.le_refl _
  id? := fun _ _ ha => ha
  nameOf := fun _ _ _ => rfl
  stateOf := fun _ => Nat.le_refl _
  multiplicityOf := fun _ => Nat.le_refl _
  callers := fun _ hc => hc
  calleesOf := fun _ _ ht => ht

theorem Graph.Precedes.trans {g g' g'' : Graph} (h : g.Precedes g') (h' : g'.Precedes g'') :
    g.Precedes g'' where
  size := Nat.le_trans h.size h'.size
  id? := fun a i ha => h'.id? a i (h.id? a i ha)
  nameOf := by
    intro k hpos hlt
    have hlt' : k < g'.size := Int.lt_of_lt_of_le hlt (Int.ofNat_le.2 h.size)
    exact (h'.nameOf k hpos hlt').trans (h.nameOf k hpos hlt)
  stateOf := fun k => Nat.le_trans (h.stateOf k) (h'.stateOf k)
  multiplicityOf := fun k => Nat.le_trans (h.multiplicityOf k) (h'.multiplicityOf k)
  callers := fun c hc => h'.callers c (h.callers c hc)
  calleesOf := fun k t ht => h'.calleesOf k t (h.calleesOf k t ht)

theorem Membership.rank_le_promote (m least : Membership) : m.rank ≤ (m.promote least).rank := by
  unfold Membership.promote
  split
  · exact Nat.le_of_lt ‹_›
  · exact Nat.le_refl _

theorem Graph.Changed.precedes {g g' : Graph} {s : GraphStep} {i : Nat} (hg : g.Valid)
    (h : g.Changed g' s i) : g.Precedes g' where
  size := by
    rcases h.placed with ⟨-, hsize⟩ | ⟨-, -, hsize⟩
    · exact Nat.le_of_eq hsize.symm
    · exact hsize ▸ Nat.le_succ _
  id? := by
    intro a k ha
    rw [h.id?]
    split
    · subst a
      rcases h.placed with ⟨hi, -⟩ | ⟨hnone, -⟩
      · exact hi.symm.trans ha
      · exact absurd ha (by simp [hnone])
    · exact ha
  nameOf := by
    intro k hpos hlt
    rw [h.nameOf]
    split
    · subst k
      rcases h.placed with ⟨hi, -⟩ | ⟨-, hi, -⟩
      · exact ((hg.id?_eq_some_iff s.name i).1 (by simp [hi])).2.2.symm
      · exact absurd hlt (by simp [hi])
    · rfl
  stateOf := by
    intro k
    rw [h.stateOf]
    split
    · exact Membership.rank_le_promote _ _
    · exact Nat.le_refl _
  multiplicityOf := by
    intro k
    rw [h.multiplicityOf]
    split
    · exact Nat.le_succ _
    · exact Nat.le_refl _
  callers := fun c hc => (h.mem_callers c).2 (Or.inl hc)
  calleesOf := by
    intro k t ht
    rw [h.calleesOf]
    split
    · exact mem_insertId.2 (Or.inr ht)
    · exact ht

/-! ## 2. Readers and writes -/

theorem valueAt?_modify {α : Type} (table : List α) (f : α → α) (i : Nat) (k : Int) :
    valueAt? (table.modify i f) k = if k = i then (valueAt? table k).map f else valueAt? table k := by
  cases k with
  | ofNat k =>
    simp only [Int.ofNat_eq_natCast, valueAt?_natCast, Int.natCast_inj, List.getElem?_modify]
    by_cases hki : k = i
    · simp [hki]
    · simp [hki, Ne.symm hki]
  | negSucc k => simp

/-- A row at the end that holds the default is read like no row. -/
theorem valueAt?_concat_default {α : Type} (table : List α) (d : α) (k : Int) :
    (valueAt? (table ++ [d]) k).getD d = (valueAt? table k).getD d := by
  cases k with
  | ofNat k =>
    simp only [Int.ofNat_eq_natCast, valueAt?_natCast]
    rcases Nat.lt_trichotomy k table.length with hlt | heq | hgt
    · rw [List.getElem?_append_left hlt]
    · simp [heq]
    · rw [List.getElem?_eq_none (by simpa using hgt), List.getElem?_eq_none (Nat.le_of_lt hgt)]
  | negSucc k => simp

theorem Graph.stateOf_ensure (g : Graph) (a : Name) (k : Int) :
    (g.ensure a).1.stateOf k = g.stateOf k := by
  unfold Graph.ensure
  split
  · rfl
  · exact valueAt?_concat_default _ _ _

theorem Graph.multiplicityOf_ensure (g : Graph) (a : Name) (k : Int) :
    (g.ensure a).1.multiplicityOf k = g.multiplicityOf k := by
  unfold Graph.ensure
  split
  · rfl
  · exact valueAt?_concat_default _ _ _

theorem Graph.callees?_ensure (g : Graph) (a : Name) (k : Int) :
    (g.ensure a).1.callees? k = g.callees? k := by
  unfold Graph.callees?
  rw [Graph.links_ensure]

theorem Graph.ensure_known {g : Graph} {a : Name} {i : Nat} (ha : g.id? a = some i) :
    g.ensure a = (g, i) := by
  unfold Graph.ensure
  rw [ha]

theorem Graph.ensure_new {g : Graph} {a : Name} (ha : g.id? a = none) :
    g.ensure a =
      ({ g with
          ids := (a, g.names.length) :: g.ids
          names := g.names ++ [a]
          membership := g.membership ++ [.unseen]
          multiplicity := g.multiplicity ++ [0] },
        g.names.length) := by
  unfold Graph.ensure
  rw [ha]

theorem Graph.ensure_placed (g : Graph) (a : Name) :
    (g.id? a = some (g.ensure a).2 ∧ (g.ensure a).1.size = g.size) ∨
      (g.id? a = none ∧ (g.ensure a).2 = g.size ∧ (g.ensure a).1.size = g.size + 1) := by
  cases ha : g.id? a with
  | some i =>
    rw [Graph.ensure_known ha]
    exact Or.inl ⟨rfl, rfl⟩
  | none =>
    rw [Graph.ensure_new ha]
    exact Or.inr ⟨rfl, rfl, by simp [Graph.size]⟩

theorem Graph.id?_ensure (g : Graph) (a b : Name) :
    (g.ensure a).1.id? b = if b = a then some (g.ensure a).2 else g.id? b := by
  cases ha : g.id? a with
  | some i =>
    rw [Graph.ensure_known ha]
    split
    · rename_i hb
      exact hb ▸ ha
    · rfl
  | none =>
    rw [Graph.ensure_new ha]
    show ((a, g.names.length) :: g.ids).lookup b = _
    rw [List.lookup_cons]
    by_cases hb : b = a
    · simp [hb]
    · have hbeq : (b == a) = false := by simpa using hb
      simp [hbeq, hb, Graph.id?]

theorem Graph.Valid.nameOf_ensure {g : Graph} (hg : g.Valid) (a : Name) (k : Int) :
    (g.ensure a).1.nameOf k = if k = (g.ensure a).2 then a else g.nameOf k := by
  cases ha : g.id? a with
  | some i =>
    rw [Graph.ensure_known ha]
    split
    · rename_i hk
      subst hk
      exact ((hg.id?_eq_some_iff a i).1 (by simp [ha])).2.2
    · rfl
  | none =>
    rw [Graph.ensure_new ha]
    show (valueAt? (g.names ++ [a]) k).getD [] = if k = (g.names.length : Int) then a else g.nameOf k
    split
    · rename_i hk
      simp [hk]
    · rename_i hk
      cases k with
      | ofNat k =>
        have hne : k ≠ g.names.length := fun h => hk (by simp [h])
        rw [Int.ofNat_eq_natCast, valueAt?_natCast, Graph.nameOf, valueAt?_natCast]
        rcases Nat.lt_or_gt_of_ne hne with hlt | hgt
        · rw [List.getElem?_append_left hlt]
        · rw [List.getElem?_eq_none (by simpa using hgt), List.getElem?_eq_none (Nat.le_of_lt hgt)]
      | negSucc k => simp [Graph.nameOf]

theorem Graph.Valid.ensure_lt_rows {g : Graph} (hg : g.Valid) (a : Name) :
    (g.ensure a).2 < (g.ensure a).1.membership.length ∧
      (g.ensure a).2 < (g.ensure a).1.multiplicity.length := by
  have hmembership := hg.membership_length
  have hmultiplicity := hg.multiplicity_length
  cases ha : g.id? a with
  | some i =>
    rw [Graph.ensure_known ha]
    have hlt : (i : Int) < g.size := ((hg.id?_eq_some_iff a i).1 (by simp [ha])).2.1
    have hlt' : i < g.size := Int.ofNat_lt.1 hlt
    exact ⟨hmembership ▸ hlt', hmultiplicity ▸ hlt'⟩
  | none =>
    rw [Graph.ensure_new ha]
    simp only [List.length_append, List.length_singleton, hmembership, hmultiplicity]
    exact ⟨Nat.lt_succ_self _, Nat.lt_succ_self _⟩

theorem Graph.stateOf_promote {g : Graph} {i : Nat} (hi : i < g.membership.length) (least : Membership)
    (k : Int) :
    (g.promote i least).stateOf k = if k = i then (g.stateOf k).promote least else g.stateOf k := by
  -- Without the row the write would be lost: this is what `hi` is for.
  unfold Graph.stateOf Graph.promote
  rw [valueAt?_modify]
  split
  · rename_i hk
    simp [hk, hi]
  · rfl

theorem Graph.multiplicityOf_countCall {g : Graph} {i : Nat} (hi : i < g.multiplicity.length) (k : Int) :
    (g.countCall i).multiplicityOf k =
      if k = i then g.multiplicityOf k + 1 else g.multiplicityOf k := by
  unfold Graph.multiplicityOf Graph.countCall
  rw [valueAt?_modify]
  split
  · rename_i hk
    simp [hk, hi]
  · rfl

/-- Opening an entry is seen in the table of links only, and there at one caller. -/
theorem Graph.openLinks_eq (g : Graph) (i : Nat) :
    ∃ links, g.openLinks i = { g with links } ∧
      (∀ k, links.lookup k = if k = i then some ((g.links.lookup k).getD []) else g.links.lookup k) ∧
      (links.map fun entry => entry.2.length).sum = (g.links.map fun entry => entry.2.length).sum := by
  unfold Graph.openLinks
  cases hi : g.links.lookup i with
  | some targets =>
    refine ⟨g.links, rfl, fun k => ?_, rfl⟩
    split
    · rename_i hk
      simp [hk, hi]
    · rfl
  | none =>
    refine ⟨(i, []) :: g.links, rfl, fun k => ?_, by simp⟩
    rw [List.lookup_cons]
    by_cases hk : k = i
    · simp [hk, hi]
    · have hbeq : (k == i) = false := by simpa using hk
      simp [hbeq, hk]

theorem Graph.callees?_link (g : Graph) (c i : Nat) (k : Int) :
    (g.link c i).callees? k = if k = c then (g.callees? k).map (insertId i) else g.callees? k := by
  cases k with
  | ofNat k =>
    rw [Int.ofNat_eq_natCast, Graph.callees?_natCast, Graph.callees?_natCast]
    show (g.links.map _).lookup k = _
    rw [lookup_map_link]
    simp only [Int.natCast_inj]
  | negSucc k => simp

theorem Graph.mem_callers_iff {g : Graph} {c : Nat} : c ∈ g.callers ↔ (g.callees? c).isSome := by
  rw [Graph.callees?_natCast]
  exact mem_foldr_insertId

/-! ## 3. The number of links -/

theorem insertId_of_mem {x : Nat} {ys : List Nat} (hys : ys.Pairwise (· < ·)) (hx : x ∈ ys) :
    insertId x ys = ys :=
  (insertId_pairwise hys).eq_of_mem_iff hys fun _ =>
    ⟨fun hy => (mem_insertId.1 hy).elim (fun h => h ▸ hx) id, fun hy => mem_insertId.2 (Or.inr hy)⟩

theorem length_insertId {x : Nat} {ys : List Nat} (hys : ys.Pairwise (· < ·)) :
    (insertId x ys).length = if x ∈ ys then ys.length else ys.length + 1 := by
  split
  · rw [insertId_of_mem hys ‹_›]
  · rw [(insertId_perm ‹_›).length_eq, List.length_cons]

/-- One call adds one link to the entry of its caller, unless the link is there. -/
theorem sum_links_link {links : List (Nat × List Nat)} (hkeys : (links.map Prod.fst).Nodup)
    (hordered : ∀ entry ∈ links, entry.2.Pairwise (· < ·)) {c i : Nat} {targets : List Nat}
    (hc : links.lookup c = some targets) :
    ((links.map fun (d, ts) => if d = c then (d, insertId i ts) else (d, ts)).map
        fun entry => entry.2.length).sum =
      if i ∈ targets then (links.map fun entry => entry.2.length).sum
      else (links.map fun entry => entry.2.length).sum + 1 := by
  induction links with
  | nil => simp at hc
  | cons link links ih =>
    obtain ⟨d, ts⟩ := link
    obtain ⟨hnew, hrest⟩ := List.nodup_cons.1 hkeys
    rw [List.lookup_cons] at hc
    simp only [List.map_cons, List.sum_cons]
    by_cases hdc : d = c
    · subst hdc
      have hts : ts = targets := by simpa using hc
      subst hts
      -- No other entry is the caller's, so the rest stays as it is.
      have hothers : links.map (fun (d', ts') => if d' = d then (d', insertId i ts') else (d', ts')) =
          links := by
        conv_rhs => rw [← List.map_id links]
        apply List.map_congr_left
        intro entry hentry
        have hne : entry.1 ≠ d := fun h => hnew (List.mem_map.2 ⟨entry, hentry, h⟩)
        simp [hne]
      have hts : ts.Pairwise (· < ·) := hordered (d, ts) (by simp)
      rw [hothers, if_pos rfl]
      dsimp only
      rw [length_insertId hts]
      split
      · rfl
      · omega
    · have hbeq : (c == d) = false := by simpa using Ne.symm hdc
      rw [hbeq] at hc
      rw [if_neg hdc, ih hrest (fun entry hentry => hordered entry (by simp [hentry])) hc]
      dsimp only
      split
      · rfl
      · omega

theorem Graph.Tidy.linkCount_link {g : Graph} (hg : g.Tidy) {c : Nat} {targets : List Nat}
    (hc : g.callees? c = some targets) (i : Nat) :
    (g.link c i).linkCount = if i ∈ targets then g.linkCount else g.linkCount + 1 := by
  rw [Graph.callees?_natCast] at hc
  exact sum_links_link hg.keyed hg.ascending hc

/-! ## 4. Steps -/

theorem Graph.linkCount_ensure (g : Graph) (a : Name) : (g.ensure a).1.linkCount = g.linkCount := by
  unfold Graph.linkCount
  rw [Graph.links_ensure]

theorem Graph.Valid.changed_caller {g : Graph} (hg : g.Valid) {a : Name} (ha : a ≠ []) :
    ∃ g' i, g.step (.caller a) = (g', .ok i) ∧ g.Changed g' (.caller a) i := by
  obtain ⟨hrow, -⟩ := hg.ensure_lt_rows a
  obtain ⟨links, hopen, hlookup, hsum⟩ :=
    ((g.ensure a).1.promote (g.ensure a).2 .confirmed).openLinks_eq (g.ensure a).2
  have hstep : g.step (.caller a) =
      ({ (g.ensure a).1.promote (g.ensure a).2 .confirmed with links }, .ok (g.ensure a).2) := by
    rw [← hopen]
    show g.addCaller a = _
    unfold Graph.addCaller
    rw [if_neg (by simpa using ha)]
  -- The entry that is opened holds what a reader would have seen in its place.
  have hcallees : ∀ c : Nat, links.lookup c =
      if c = (g.ensure a).2 then some ((g.callees? c).getD []) else g.callees? c := by
    intro c
    rw [hlookup, ← Graph.callees?_ensure g a, Graph.callees?_natCast]
    rfl
  refine ⟨_, _, hstep, ?_, ?_, ?_, ?_, ?_, ?_, ?_, ?_⟩
  · exact g.ensure_placed a
  · exact g.id?_ensure a
  · exact hg.nameOf_ensure a
  · intro k
    rw [← Graph.stateOf_ensure g a]
    exact Graph.stateOf_promote hrow .confirmed k
  · intro k
    rw [if_neg (by simp [GraphStep.isCallee])]
    exact Graph.multiplicityOf_ensure g a k
  · intro c
    rw [Graph.mem_callers_iff, Graph.mem_callers_iff, Graph.callees?_natCast]
    show (links.lookup c).isSome ↔ _
    rw [hcallees]
    split
    · simp [GraphStep.source?, *]
    · simp [*]
  · intro k
    rw [if_neg (by simp [GraphStep.source?])]
    cases k with
    | ofNat c =>
      show ((Graph.callees? _ (c : Int)).getD []) = g.calleesOf c
      rw [Graph.callees?_natCast]
      show (links.lookup c).getD [] = _
      rw [hcallees]
      split
      · rfl
      · rfl
    | negSucc c => simp [Graph.calleesOf]
  · rw [if_neg (by simp [GraphStep.source?])]
    exact hsum.trans (Graph.linkCount_ensure g a)

theorem Graph.Valid.changed_callee {g : Graph} (hg : g.Valid) (htidy : g.Tidy) {c : Nat} {a : Name}
    {targets : List Nat} (ha : a ≠ []) (hc : g.callees? c = some targets) :
    ∃ g' i, g.step (.callee c a) = (g', .ok i) ∧ g.Changed g' (.callee c a) i := by
  obtain ⟨hrow, hcount⟩ := hg.ensure_lt_rows a
  have hc' : (g.ensure a).1.callees? c = some targets := (Graph.callees?_ensure g a c).trans hc
  have htidy' : (g.ensure a).1.Tidy := by
    have hlinks := Graph.links_ensure g a
    refine ⟨?_, ?_⟩
    · rw [Graph.Keyed, hlinks]
      exact htidy.keyed
    · rw [Graph.Ascending, hlinks]
      exact htidy.ascending
  have hstep : g.step (.callee c a) =
      ((((g.ensure a).1.promote (g.ensure a).2 .calleeOnly).countCall (g.ensure a).2).link c
        (g.ensure a).2, .ok (g.ensure a).2) := by
    show g.addCallee c a = _
    unfold Graph.addCallee
    rw [if_neg (by simpa using ha), hc]
    rfl
  have hcallees : ∀ k : Int,
      ((((g.ensure a).1.promote (g.ensure a).2 .calleeOnly).countCall (g.ensure a).2).link c
        (g.ensure a).2).callees? k =
        if k = c then (g.callees? k).map (insertId (g.ensure a).2) else g.callees? k := by
    intro k
    rw [← Graph.callees?_ensure g a]
    exact Graph.callees?_link _ c _ k
  refine ⟨_, _, hstep, ?_, ?_, ?_, ?_, ?_, ?_, ?_, ?_⟩
  · exact g.ensure_placed a
  · exact g.id?_ensure a
  · exact hg.nameOf_ensure a
  · intro k
    rw [← Graph.stateOf_ensure g a]
    exact Graph.stateOf_promote hrow .calleeOnly k
  · intro k
    rw [← Graph.multiplicityOf_ensure g a]
    simp only [GraphStep.isCallee, and_true]
    exact Graph.multiplicityOf_countCall hcount k
  · intro d
    rw [Graph.mem_callers_iff, Graph.mem_callers_iff, hcallees]
    split
    · simp [GraphStep.source?]
    · simp [GraphStep.source?]
  · intro k
    simp only [Graph.calleesOf, hcallees, GraphStep.source?, Option.some.injEq]
    by_cases hk : k = c
    · subst hk
      simp [hc]
    · simp [hk, Ne.symm hk]
  · -- Only a target that is new to the caller is one more link.
    have hfresh : (∃ d, (GraphStep.callee c a).source? = some d ∧ (g.ensure a).2 ∉ g.calleesOf d) ↔
        (g.ensure a).2 ∉ targets := by
      simp [GraphStep.source?, Graph.calleesOf, hc]
    simp only [hfresh, ite_not]
    rw [← Graph.linkCount_ensure g a]
    exact htidy'.linkCount_link hc' _

/-- **A step is refused or it changes the graph.** It is refused if its name is empty, or if it relies on a
    caller that is none. -/
theorem Graph.Valid.step_cases {g : Graph} (hg : g.Valid) (htidy : g.Tidy) (s : GraphStep) :
    (∃ e, g.step s = (g, .error e) ∧
        (s.name = [] ∨ ∃ c, s.source? = some c ∧ g.callees? c = none)) ∨
      (∃ g' i, g.step s = (g', .ok i) ∧ g.Changed g' s i ∧
        s.name ≠ [] ∧ ∀ c, s.source? = some c → (g.callees? c).isSome) := by
  cases s with
  | caller a =>
    by_cases ha : a = []
    · exact Or.inl ⟨.emptyCaller, by simp [Graph.step, Graph.addCaller, ha], Or.inl ha⟩
    · obtain ⟨g', i, hstep, hchanged⟩ := hg.changed_caller ha
      refine Or.inr ⟨g', i, hstep, hchanged, ha, ?_⟩
      rintro c ⟨⟩
  | callee c a =>
    by_cases ha : a = []
    · exact Or.inl ⟨.emptyCallee, by simp [Graph.step, Graph.addCallee, ha], Or.inl ha⟩
    · cases hc : g.callees? c with
      | none =>
        refine Or.inl ⟨.unknownCaller c, ?_, Or.inr ⟨c, rfl, hc⟩⟩
        simp [Graph.step, Graph.addCallee, ha, hc]
      | some targets =>
        cases c with
        | ofNat c =>
          obtain ⟨g', i, hstep, hchanged⟩ := hg.changed_callee htidy ha hc
          refine Or.inr ⟨g', i, hstep, hchanged, ha, ?_⟩
          rintro d ⟨⟩
          exact hc ▸ rfl
        | negSucc c => simp at hc

/-! ## 5. Runs -/

theorem Graph.run_cons (g : Graph) (s : GraphStep) (steps : List GraphStep) :
    g.run (s :: steps) =
      (((g.step s).1.run steps).1, (g.step s).2 :: ((g.step s).1.run steps).2) := rfl

theorem Graph.run_concat (g : Graph) (steps : List GraphStep) (s : GraphStep) :
    g.run (steps ++ [s]) =
      (((g.run steps).1.step s).1, (g.run steps).2 ++ [((g.run steps).1.step s).2]) := by
  induction steps generalizing g with
  | nil => rfl
  | cons s' steps ih =>
    rw [List.cons_append, Graph.run_cons, ih, Graph.run_cons]
    rfl

theorem Graph.length_answers (g : Graph) (steps : List GraphStep) :
    (g.run steps).2.length = steps.length := by
  induction steps generalizing g with
  | nil => rfl
  | cons s steps ih => exact congrArg Nat.succ (ih _)

/-- **What is known at one moment of a run is known at every later one.** -/
theorem Graph.precedes_run (steps more : List GraphStep) :
    (Graph.run {} steps).1.Precedes (Graph.run {} (steps ++ more)).1 := by
  -- From the end: `step_cases` is about a step that is taken after a run.
  induction more using List.reverseRecOn with
  | nil =>
    rw [List.append_nil]
    exact Graph.Precedes.refl _
  | append_singleton more s ih =>
    rw [← List.append_assoc, Graph.run_concat]
    obtain ⟨hvalid, htidy⟩ := Graph.valid_run (steps ++ more)
    rcases hvalid.step_cases htidy s with ⟨e, hstep, -⟩ | ⟨g', i, hstep, hchanged, -⟩
    · rw [hstep]
      exact ih
    · rw [hstep]
      exact ih.trans (hchanged.precedes hvalid)

/-- Some call of `addCaller` was answered with this id. -/
def Graph.Introduced (steps : List GraphStep) (answers : List (Except GraphError Nat)) (c : Int) : Prop :=
  ∃ a i, (GraphStep.caller a, Except.ok i) ∈ steps.zip answers ∧ (i : Int) = c

theorem Graph.introduced_concat {steps : List GraphStep} {answers : List (Except GraphError Nat)}
    (hlength : answers.length = steps.length) (s : GraphStep) (answer : Except GraphError Nat) (c : Int) :
    Graph.Introduced (steps ++ [s]) (answers ++ [answer]) c ↔
      Graph.Introduced steps answers c ∨ ∃ a i, s = .caller a ∧ answer = .ok i ∧ (i : Int) = c := by
  unfold Graph.Introduced
  rw [List.zip_append hlength.symm]
  constructor
  · rintro ⟨a, i, hmem, hi⟩
    rcases List.mem_append.1 hmem with hmem | hmem
    · exact Or.inl ⟨a, i, hmem, hi⟩
    · obtain ⟨hs, hanswer⟩ := Prod.mk.inj (List.mem_singleton.1 hmem)
      exact Or.inr ⟨a, i, hs.symm, hanswer.symm, hi⟩
  · rintro (⟨a, i, hmem, hi⟩ | ⟨a, i, rfl, rfl, hi⟩)
    · exact ⟨a, i, List.mem_append_left _ hmem, hi⟩
    · exact ⟨a, i, List.mem_append_right _ (List.mem_singleton.2 rfl), hi⟩

/-- **The callers are the ids that `addCaller` has answered with.** -/
theorem Graph.introduced_iff (steps : List GraphStep) (c : Int) :
    Graph.Introduced steps (Graph.run {} steps).2 c ↔ ((Graph.run {} steps).1.callees? c).isSome := by
  induction steps using List.reverseRecOn generalizing c with
  | nil =>
    have hnone : (Graph.run {} []).1.callees? c = none := by
      show Graph.callees? {} c = none
      cases c with
      | ofNat c => simp
      | negSucc c => simp
    rw [hnone]
    simp [Graph.Introduced]
  | append_singleton steps s ih =>
    obtain ⟨hvalid, htidy⟩ := Graph.valid_run steps
    rw [Graph.run_concat, Graph.introduced_concat (Graph.length_answers _ _), ih]
    rcases hvalid.step_cases htidy s with ⟨e, hstep, -⟩ | ⟨g', i, hstep, hchanged, -⟩
    · simp [hstep]
    · rw [hstep]
      cases c with
      | ofNat c =>
        -- A step with a source answers with a callee, so only the other ones introduce a caller.
        rw [Int.ofNat_eq_natCast, ← Graph.mem_callers_iff, ← Graph.mem_callers_iff, hchanged.mem_callers]
        apply or_congr Iff.rfl
        cases s with
        | caller a => simp [GraphStep.source?, eq_comm]
        | callee d a => simp [GraphStep.source?]
      | negSucc c => simp

/-- **Steps are atomic and go forward only.** After any run, an id is a caller's exactly if `addCaller` has
    answered with it, and then its node is part of the project. The next step is refused exactly if its name is
    empty or it relies on an id that is no caller's, and then the graph is as it was. Otherwise the step is
    answered with an id, it changes the graph at this id and at the caller's links only, and everything that was
    known is still known. -/
theorem Graph.step_atomic (steps : List GraphStep) (s : GraphStep) :
    let g := (Graph.run {} steps).1
    let introduced := Graph.Introduced steps (Graph.run {} steps).2
    (∀ c, introduced c ↔ g.stateOf c = .confirmed) ∧
      ((∃ e, g.step s = (g, .error e)) ∧ (s.name = [] ∨ ∃ c, s.source? = some c ∧ ¬ introduced c) ∨
        (∃ g' i, g.step s = (g', .ok i) ∧ g.Changed g' s i ∧ g.Precedes g') ∧
          s.name ≠ [] ∧ ∀ c, s.source? = some c → introduced c) := by
  intro g introduced
  obtain ⟨hvalid, htidy⟩ := Graph.valid_run steps
  have hintroduced : ∀ c, introduced c ↔ (g.callees? c).isSome := Graph.introduced_iff steps
  refine ⟨?_, ?_⟩
  · intro c
    have howns := hvalid.owns_iff c
    rw [Graph.owns, decide_eq_true_iff] at howns
    rw [hintroduced, howns]
    constructor
    · intro hc
      cases c with
      | ofNat c => exact ⟨c, Graph.mem_callers_iff.2 hc, rfl⟩
      | negSucc c => simp at hc
    · rintro ⟨d, hd, rfl⟩
      exact Graph.mem_callers_iff.1 hd
  · rcases hvalid.step_cases htidy s with ⟨e, hstep, hrefused⟩ | ⟨g', i, hstep, hchanged, hname, hsource⟩
    · refine Or.inl ⟨⟨e, hstep⟩, hrefused.imp_right ?_⟩
      rintro ⟨c, hc, hnone⟩
      refine ⟨c, hc, ?_⟩
      rw [hintroduced, hnone]
      exact Bool.false_ne_true
    · refine Or.inr ⟨⟨g', i, hstep, hchanged, hchanged.precedes hvalid⟩, hname, ?_⟩
      intro c hc
      exact (hintroduced c).2 (hsource c hc)

end CallCoupling
