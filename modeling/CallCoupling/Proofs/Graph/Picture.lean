import CallCoupling.Graph.Basic
import CallCoupling.Proofs.Names

/-!
# What a graph says of names

Five tables hold a graph, and each step writes to several of them. `Picture` is the same knowledge without
ids: functions and relations on names. `Graph.Shows g p` ties the two together, and it is the only place
where the tables are compared with each other. Its clauses say, table by table,

* the index is the inverse of the names,
* the states and the counts of call sites are `names.map f` for the picture's `f`, so they are as long as
  the names and cannot drift,
* an id has an entry in the table of links exactly if its name is a caller's, and that entry holds an id
  exactly if the picture links the two names.

Below, each of the five writes of a graph (`ensure`, `promote`, `openLinks`, `countCall`, `link`) is given
its effect on the picture, once. Steps are composed of writes and never open a table again.
-/

set_option autoImplicit false

namespace CallCoupling

/-- What is known of names, with their ids left out. -/
@[ext]
structure Picture where
  /-- The names seen, in the order in which they were first seen. -/
  names : List Name
  state : Name → Membership
  /-- The number of call sites that target a name. -/
  calls : Name → Nat
  isCaller : Name → Prop
  link : Name → Name → Prop

/-- Nothing is known of a name. This is what makes room for it at the end of every table: a fresh
    row of zeros is already right. -/
structure Picture.Silent (p : Picture) (a : Name) : Prop where
  state : p.state a = .unseen
  calls : p.calls a = 0
  not_caller : ¬ p.isCaller a
  not_source : ∀ b, ¬ p.link a b
  not_target : ∀ b, ¬ p.link b a

/-- **The tables of a graph agree with a picture, and so with each other.** -/
structure Graph.Shows (g : Graph) (p : Picture) : Prop where
  names : g.names = p.names
  indexed : Indexes g.ids g.names
  membership : g.membership = g.names.map p.state
  multiplicity : g.multiplicity = g.names.map p.calls
  callers : ∀ i, (g.links.lookup i).isSome ↔ ∃ a, g.names[i]? = some a ∧ p.isCaller a
  links : ∀ i j, (∃ targets, g.links.lookup i = some targets ∧ j ∈ targets) ↔
    ∃ a b, g.names[i]? = some a ∧ g.names[j]? = some b ∧ p.link a b

/-! ## 1. Sets of ids -/

theorem mem_insertId {x y : Nat} : ∀ {ys : List Nat}, x ∈ insertId y ys ↔ x = y ∨ x ∈ ys := by
  intro ys
  induction ys with
  | nil => simp [insertId]
  | cons z zs ih =>
    unfold insertId
    split
    · rw [List.mem_cons]
    · split
      · rename_i hyz
        subst hyz
        simp
      · rw [List.mem_cons, ih, List.mem_cons]
        exact or_left_comm

/-- Changing the set of one caller is seen at that caller only. -/
theorem lookup_map_link (i : Nat) (f : List Nat → List Nat) (k : Nat) :
    ∀ links : List (Nat × List Nat),
      (links.map fun (c, targets) => if c = i then (c, f targets) else (c, targets)).lookup k =
        if k = i then (links.lookup k).map f else links.lookup k := by
  intro links
  induction links with
  | nil => simp
  | cons link links ih =>
    obtain ⟨c, targets⟩ := link
    rw [List.map_cons]
    by_cases hci : c = i
    · subst hci
      by_cases hkc : k = c
      · simp [hkc]
      · have hbeq : (k == c) = false := by simpa using hkc
        simp only [if_true, List.lookup_cons, hbeq, ih]
    · by_cases hkc : k = c
      · subst hkc
        simp [hci]
      · have hbeq : (k == c) = false := by simpa using hkc
        simp only [if_neg hci, List.lookup_cons, hbeq, ih]

/-! ## 2. The five writes -/

theorem Graph.shows_empty {p : Picture} (hnames : p.names = []) : Graph.Shows {} p where
  names := hnames.symm
  indexed := Indexes.nil
  membership := rfl
  multiplicity := rfl
  callers := by simp
  links := by simp

/-- **A name gets a node, and nothing else changes.** The new node's rows (`unseen`, `0`, no links) are right
    because nothing was known of the name before. -/
theorem Graph.Shows.ensure {g : Graph} {p : Picture} {a : Name} (hg : g.Shows p)
    (hs : a ∉ p.names → p.Silent a) :
    (g.ensure a).1.Shows { p with names := enter p.names a } ∧
      (g.ensure a).1.names[(g.ensure a).2]? = some a := by
  unfold Graph.ensure Graph.id?
  cases hl : g.ids.lookup a with
  | some i =>
    have hi : g.names[i]? = some a := (hg.indexed a i).mp hl
    have ha : a ∈ p.names := hg.names ▸ List.mem_of_getElem? hi
    refine ⟨?_, hi⟩
    rw [enter, if_pos ha]
    exact hg
  | none =>
    have ha : a ∉ g.names := hg.indexed.lookup_eq_none.mp hl
    have ha' : a ∉ p.names := hg.names ▸ ha
    have hsil : p.Silent a := hs ha'
    refine ⟨⟨?_, hg.indexed.push ha, ?_, ?_, ?_, ?_⟩, by simp⟩
    · rw [enter, if_neg ha', hg.names]
    · simp [hg.membership, hsil.state]
    · simp [hg.multiplicity, hsil.calls]
    · intro i
      rw [hg.callers]
      constructor
      · rintro ⟨b, hb, hcaller⟩
        exact ⟨b, getElem?_concat_eq_some.mpr (Or.inl hb), hcaller⟩
      · rintro ⟨b, hb, hcaller⟩
        rcases getElem?_concat_eq_some.mp hb with hb | ⟨_, rfl⟩
        · exact ⟨b, hb, hcaller⟩
        · exact absurd hcaller hsil.not_caller
    · intro i j
      rw [hg.links]
      constructor
      · rintro ⟨b, c, hb, hc, hlink⟩
        exact ⟨b, c, getElem?_concat_eq_some.mpr (Or.inl hb),
          getElem?_concat_eq_some.mpr (Or.inl hc), hlink⟩
      · rintro ⟨b, c, hb, hc, hlink⟩
        rcases getElem?_concat_eq_some.mp hb with hb | ⟨_, rfl⟩
        · rcases getElem?_concat_eq_some.mp hc with hc | ⟨_, rfl⟩
          · exact ⟨b, c, hb, hc, hlink⟩
          · exact absurd hlink (hsil.not_target b)
        · exact absurd hlink (hsil.not_source c)

theorem Graph.Shows.promote {g : Graph} {p : Picture} {a : Name} {i : Nat} (hg : g.Shows p)
    (hi : g.names[i]? = some a) (least : Membership) :
    (g.promote i least).Shows
      { p with state := Function.update p.state a ((p.state a).promote least) } where
  names := hg.names
  indexed := hg.indexed
  membership := by
    show g.membership.modify i _ = _
    rw [hg.membership, modify_map hg.indexed.nodup hi]
    rfl
  multiplicity := hg.multiplicity
  callers := hg.callers
  links := hg.links

theorem Graph.Shows.countCall {g : Graph} {p : Picture} {a : Name} {i : Nat} (hg : g.Shows p)
    (hi : g.names[i]? = some a) :
    (g.countCall i).Shows { p with calls := Function.update p.calls a (p.calls a + 1) } where
  names := hg.names
  indexed := hg.indexed
  membership := hg.membership
  multiplicity := by
    show g.multiplicity.modify i _ = _
    rw [hg.multiplicity, modify_map hg.indexed.nodup hi]
    rfl
  callers := hg.callers
  links := hg.links

/-- A caller's entry starts empty; an entry that is there already is kept with its links. -/
theorem Graph.Shows.openLinks {g : Graph} {p : Picture} {a : Name} {i : Nat} (hg : g.Shows p)
    (hi : g.names[i]? = some a) :
    (g.openLinks i).Shows { p with isCaller := fun b => b = a ∨ p.isCaller b } := by
  -- Said with ids: the callers are the old ones and `i`.
  have hwidened : ∀ k, (∃ b, g.names[k]? = some b ∧ (b = a ∨ p.isCaller b)) ↔
      k = i ∨ (g.links.lookup k).isSome := by
    intro k
    rw [hg.callers]
    constructor
    · rintro ⟨b, hb, rfl | hcaller⟩
      · exact Or.inl (hg.indexed.place_unique hb hi)
      · exact Or.inr ⟨b, hb, hcaller⟩
    · rintro (rfl | ⟨b, hb, hcaller⟩)
      · exact ⟨a, hi, Or.inl rfl⟩
      · exact ⟨b, hb, Or.inr hcaller⟩
  unfold Graph.openLinks
  cases hl : g.links.lookup i with
  | some targets =>
    refine ⟨hg.names, hg.indexed, hg.membership, hg.multiplicity, ?_, hg.links⟩
    intro k
    -- `i` had an entry, so it adds nothing to the callers.
    refine Iff.trans ⟨Or.inr, ?_⟩ (hwidened k).symm
    rintro (rfl | hk)
    · rw [hl]; rfl
    · exact hk
  | none =>
    refine ⟨hg.names, hg.indexed, hg.membership, hg.multiplicity, ?_, ?_⟩
    · intro k
      refine Iff.trans ?_ (hwidened k).symm
      rw [List.lookup_cons]
      by_cases hki : k = i
      · simp [hki]
      · have hbeq : (k == i) = false := by simpa using hki
        simp [hbeq, hki]
    · intro k j
      rw [← hg.links, List.lookup_cons]
      by_cases hki : k = i
      · subst hki
        simp [hl]
      · have hbeq : (k == i) = false := by simpa using hki
        simp [hbeq]

theorem Graph.Shows.link {g : Graph} {p : Picture} {a b : Name} {i j : Nat} (hg : g.Shows p)
    (hi : g.names[i]? = some a) (hj : g.names[j]? = some b) (hcaller : p.isCaller a) :
    (g.link i j).Shows { p with link := fun x y => (x = a ∧ y = b) ∨ p.link x y } := by
  obtain ⟨targets, htargets⟩ : ∃ targets, g.links.lookup i = some targets :=
    Option.isSome_iff_exists.mp ((hg.callers i).mpr ⟨a, hi, hcaller⟩)
  refine ⟨hg.names, hg.indexed, hg.membership, hg.multiplicity, ?_, ?_⟩
  · intro k
    refine Iff.trans ?_ (hg.callers k)
    show ((g.links.map _).lookup k).isSome ↔ _
    rw [lookup_map_link]
    split <;> simp
  · intro k l
    show (∃ ts, (g.links.map _).lookup k = some ts ∧ l ∈ ts) ↔ _
    rw [lookup_map_link]
    have hnew : (∃ x y, g.names[k]? = some x ∧ g.names[l]? = some y ∧ ((x = a ∧ y = b) ∨ p.link x y)) ↔
        (k = i ∧ l = j) ∨ ∃ ts, g.links.lookup k = some ts ∧ l ∈ ts := by
      rw [hg.links]
      constructor
      · rintro ⟨x, y, hx, hy, ⟨rfl, rfl⟩ | hlink⟩
        · exact Or.inl ⟨hg.indexed.place_unique hx hi, hg.indexed.place_unique hy hj⟩
        · exact Or.inr ⟨x, y, hx, hy, hlink⟩
      · rintro (⟨rfl, rfl⟩ | ⟨x, y, hx, hy, hlink⟩)
        · exact ⟨a, b, hi, hj, Or.inl ⟨rfl, rfl⟩⟩
        · exact ⟨x, y, hx, hy, Or.inr hlink⟩
    refine Iff.trans ?_ hnew.symm
    by_cases hki : k = i
    · subst hki
      simp [htargets, mem_insertId]
    · simp [hki]

/-! ## 3. Reading the tables

The readers take any integer as an id and answer with a default outside the tables. On an id that has
a name they answer what the picture says of that name. -/

@[simp] theorem valueAt?_natCast {α : Type} (table : List α) (i : Nat) :
    valueAt? table (i : Int) = table[i]? := by
  simp [valueAt?]

@[simp] theorem valueAt?_negSucc {α : Type} (table : List α) (i : Nat) :
    valueAt? table (Int.negSucc i) = none := by
  simp [valueAt?]

@[simp] theorem Graph.callees?_natCast (g : Graph) (i : Nat) :
    g.callees? (i : Int) = g.links.lookup i := by
  simp [Graph.callees?]

@[simp] theorem Graph.callees?_negSucc (g : Graph) (i : Nat) :
    g.callees? (Int.negSucc i) = none := by
  simp [Graph.callees?]

theorem Graph.nameOf_of_getElem? {g : Graph} {i : Nat} {a : Name} (hi : g.names[i]? = some a) :
    g.nameOf i = a := by
  simp [Graph.nameOf, hi]

theorem Graph.Shows.id?_eq_some {g : Graph} {p : Picture} (hg : g.Shows p) {a : Name} {i : Nat} :
    g.id? a = some i ↔ g.names[i]? = some a := hg.indexed a i

theorem Graph.Shows.stateOf {g : Graph} {p : Picture} (hg : g.Shows p) {a : Name} {i : Nat}
    (hi : g.names[i]? = some a) : g.stateOf i = p.state a := by
  simp [Graph.stateOf, hg.membership, hi]

theorem Graph.Shows.multiplicityOf {g : Graph} {p : Picture} (hg : g.Shows p) {a : Name} {i : Nat}
    (hi : g.names[i]? = some a) : g.multiplicityOf i = p.calls a := by
  simp [Graph.multiplicityOf, hg.multiplicity, hi]

theorem mem_foldr_insertId {i : Nat} : ∀ {links : List (Nat × List Nat)},
    i ∈ links.foldr (fun link ids => insertId link.1 ids) [] ↔ (links.lookup i).isSome := by
  intro links
  induction links with
  | nil => simp
  | cons link links ih =>
    obtain ⟨c, targets⟩ := link
    rw [List.foldr_cons, mem_insertId, ih, List.lookup_cons]
    by_cases hic : i = c
    · simp [hic]
    · have hbeq : (i == c) = false := by simpa using hic
      simp [hbeq, hic]

theorem Graph.Shows.mem_callers {g : Graph} {p : Picture} (hg : g.Shows p) {i : Nat} :
    i ∈ g.callers ↔ ∃ a, g.names[i]? = some a ∧ p.isCaller a :=
  mem_foldr_insertId.trans (hg.callers i)

theorem Graph.Shows.mem_calleesOf {g : Graph} {p : Picture} (hg : g.Shows p) {i j : Nat} :
    j ∈ g.calleesOf i ↔ ∃ a b, g.names[i]? = some a ∧ g.names[j]? = some b ∧ p.link a b := by
  rw [← hg.links, Graph.calleesOf, Graph.callees?_natCast]
  cases g.links.lookup i with
  | none => simp
  | some targets => simp

/-- Between two nodes whose names are known, links are those of the names. -/
theorem Graph.Shows.mem_calleesOf_iff {g : Graph} {p : Picture} (hg : g.Shows p) {i j : Nat}
    {a b : Name} (hi : g.names[i]? = some a) (hj : g.names[j]? = some b) :
    j ∈ g.calleesOf i ↔ p.link a b := by
  rw [hg.mem_calleesOf, hi, hj]
  constructor
  · rintro ⟨a', b', ha', hb', hlink⟩
    cases ha'
    cases hb'
    exact hlink
  · intro hlink
    exact ⟨a, b, rfl, rfl, hlink⟩

end CallCoupling
