import CallCoupling.Graph.Focus
import CallCoupling.Proofs.Graph.Canonical
import CallCoupling.Proofs.Text.Bytes

/-!
# What selectors select

A selector is the name of a node, or else it is taken for a package (`Graph.Selects`). The dot behind the name of a
package is what keeps packages apart: a name that only starts with the same letters goes on with another one.

`Graph.select` asks of every node whether some selector selects it. One can as well go through the selectors, let
each mark its nodes (`Graph.marks`), and list the marked ones in the end. Both ways lead to the same ids
(`Graph.Valid.toFinset_select`), so neither the order of the selectors matters nor that one comes twice, and what two
lists of selectors select together is what they select one by one (`Graph.select_exact`).

Names are compared here as texts, with a stray byte as a unit of its own. For names and selectors that have been read
from bytes it comes to the same to compare the bytes (`Graph.selects_iff_bytes`).
-/

set_option autoImplicit false

namespace CallCoupling

namespace Graph

/-- The selector without one dot at its end. -/
def withoutDot (selector : Name) : Name :=
  if selector.getLast? = some (.char '.') then selector.dropLast else selector

/-- The selector is the name, or it is the name of no node and the name goes on behind it after a dot. -/
def Selects (g : Graph) (selector name : Name) : Prop :=
  selector = name ∨ selector ∉ g.names ∧ withoutDot selector ++ [.char '.'] <+: name

/-- What the bytes of a name start with if the name is in the package with these bytes: they and a dot, which may be
    there already. -/
def byteStart (package : List UInt8) : List UInt8 :=
  if package.getLast? = some 0x2E then package else package ++ [0x2E]

/-- The bytes of a selector select those of a name. -/
def SelectsBytes (g : Graph) (selector name : List UInt8) : Prop :=
  selector = name ∨ (∀ a ∈ g.names, a.toBytes ≠ selector) ∧ byteStart selector <+: name

/-- The ids that one selector adds to a selection. -/
def marks (g : Graph) (selector : Name) : Finset Nat :=
  match g.id? selector with
  | some i => {i}
  | none => (Finset.range g.size).filter fun i => packageStart selector <+: g.nameOf i

/-- **A list of ids is what the selectors select**: all nodes that one of them selects, ascending, and the same as if
    the selectors were gone through one by one. -/
structure Selection (g : Graph) (selectors : List Name) (ids : List Nat) : Prop where
  ascending : ids.Pairwise (· < ·)
  mem_iff : ∀ i, i ∈ ids ↔ i < g.size ∧ ∃ s ∈ selectors, g.Selects s (g.nameOf i)
  marked : ids = (selectors.foldl (fun ids s => ids ∪ g.marks s) ∅).sort (· ≤ ·)

/-! ## 1. Packages -/

theorem packageStart_eq (selector : Name) : packageStart selector = withoutDot selector ++ [.char '.'] := by
  unfold packageStart withoutDot
  split
  · rename_i hdot
    exact (List.dropLast_append_getLast? _ hdot).symm
  · rfl

/-- **A name that goes on with anything but a dot is not selected**, neither as a member nor as the node itself. -/
theorem not_selects_sibling {g : Graph} {selector rest : Name} {c : Glyph} (hc : c ≠ .char '.') :
    ¬ g.Selects selector (withoutDot selector ++ c :: rest) := by
  rintro (hself | ⟨-, hstart⟩)
  · unfold withoutDot at hself
    split at hself
    · rename_i hdot
      have hlast := List.dropLast_append_getLast? _ hdot
      have htail := List.append_cancel_left (hlast.trans hself)
      exact hc (List.cons.inj htail).1.symm
    · have htail := List.append_cancel_left ((List.append_nil selector).trans hself)
      cases htail
  · rw [List.prefix_append_right_inj, List.cons_prefix_cons] at hstart
    exact hc hstart.1.symm

theorem settled_packageStart {selector : Name} (h : Loose.Settled selector) :
    Loose.Settled (packageStart selector) := by
  unfold packageStart
  split
  · exact h
  · exact h.append (Loose.settled_ofString ".") (by decide)

theorem toBytes_packageStart {selector : Name} (h : Loose.Settled selector) :
    (packageStart selector).toBytes = byteStart selector.toBytes := by
  have hdot : selector.toBytes.getLast? = some 0x2E ↔ selector.getLast? = some (.char '.') :=
    Loose.Settled.getLast?_toBytes h (c := '.') (by decide)
  unfold packageStart byteStart
  by_cases hlast : selector.getLast? = some (.char '.')
  · rw [if_pos hlast, if_pos (hdot.2 hlast)]
  · rw [if_neg hlast, if_neg (mt hdot.1 hlast), Loose.toBytes_append]
    rfl

/-- **A name starts with a package exactly if its bytes do**, for names that have been read from bytes. -/
theorem byteStart_prefix_iff {selector name : Name} (hselector : Loose.Settled selector)
    (hname : Loose.Settled name) :
    byteStart selector.toBytes <+: name.toBytes ↔ packageStart selector <+: name := by
  have hstart := settled_packageStart hselector
  rw [← toBytes_packageStart hselector]
  rw [packageStart_eq] at hstart ⊢
  exact Loose.Settled.toBytes_prefix_iff hstart hname (by decide)

/-- **Comparing bytes selects the same**, where all names have been read from bytes. -/
theorem selects_iff_bytes {g : Graph} (hnames : ∀ a ∈ g.names, Loose.Settled a) {selector name : Name}
    (hselector : Loose.Settled selector) (hname : Loose.Settled name) :
    g.Selects selector name ↔ g.SelectsBytes selector.toBytes name.toBytes := by
  have hstranger : selector ∉ g.names ↔ ∀ a ∈ g.names, a.toBytes ≠ selector.toBytes := by
    constructor
    · intro hnone a ha hbytes
      exact hnone ((hnames a ha).toBytes_inj hselector |>.1 hbytes ▸ ha)
    · intro hnone hmem
      exact hnone selector hmem rfl
  unfold Selects SelectsBytes
  rw [hselector.toBytes_inj hname, hstranger, byteStart_prefix_iff hselector hname, packageStart_eq]

/-! ## 2. Selectors one by one -/

section

variable {g : Graph} {selectors : List Name} {i : Nat}

theorem nameOf_mem_names (hi : i < g.size) : g.nameOf i ∈ g.names := by
  obtain ⟨a, ha⟩ := getElem?_names_of_lt hi
  rw [nameOf_of_getElem? ha]
  exact List.mem_of_getElem? ha

theorem Valid.id?_eq_some (hg : g.Valid) {a : Name} : g.id? a = some i ↔ i < g.size ∧ g.nameOf i = a := by
  have hplace := hg.id?_eq_some_iff a i
  rw [Option.map_eq_some_iff] at hplace
  simpa using hplace

theorem Valid.isSome_id? (hg : g.Valid) {a : Name} : (g.id? a).isSome = true ↔ a ∈ g.names := by
  rw [Option.isSome_iff_exists]
  constructor
  · rintro ⟨i, hi⟩
    obtain ⟨hlt, rfl⟩ := hg.id?_eq_some.1 hi
    exact nameOf_mem_names hlt
  · intro ha
    obtain ⟨i, hi⟩ := List.mem_iff_getElem?.1 ha
    exact ⟨i, hg.id?_eq_some.2 ⟨lt_size_of_getElem? hi, nameOf_of_getElem? hi⟩⟩

theorem Valid.selects_iff (hg : g.Valid) (hi : i < g.size) (s : Name) :
    g.selects s (g.nameOf i) = true ↔ g.Selects s (g.nameOf i) := by
  unfold selects Selects
  split
  · rename_i hs
    have hs := hg.isSome_id?.1 hs
    rw [decide_eq_true_iff]
    constructor
    · intro hname
      exact Or.inl hname.symm
    · rintro (hname | ⟨hs', -⟩)
      · exact hname.symm
      · exact absurd hs hs'
  · rename_i hs
    have hs := mt hg.isSome_id?.2 hs
    rw [List.isPrefixOf_iff_prefix, packageStart_eq]
    constructor
    · intro hstart
      exact Or.inr ⟨hs, hstart⟩
    · rintro (rfl | ⟨-, hstart⟩)
      · exact absurd (nameOf_mem_names hi) hs
      · exact hstart

theorem mem_select : i ∈ g.select selectors ↔ i < g.size ∧ ∃ s ∈ selectors, g.selects s (g.nameOf i) = true := by
  unfold select
  simp only [List.mem_filterMap, Prod.exists, List.mk_mem_zipIdx_iff_getElem?]
  constructor
  · rintro ⟨a, k, ha, hpick⟩
    split at hpick
    · rename_i hany
      obtain rfl := Option.some.inj hpick
      rw [nameOf_of_getElem? ha]
      exact ⟨lt_size_of_getElem? ha, List.any_eq_true.1 hany⟩
    · cases hpick
  · rintro ⟨hi, hany⟩
    obtain ⟨a, ha⟩ := getElem?_names_of_lt hi
    rw [nameOf_of_getElem? ha] at hany
    exact ⟨a, i, ha, if_pos (List.any_eq_true.2 hany)⟩

theorem pairwise_select (g : Graph) (selectors : List Name) : (g.select selectors).Pairwise (· < ·) := by
  have hplaces : g.names.zipIdx.Pairwise fun p q => p.2 < q.2 := by
    rw [← List.pairwise_map, List.zipIdx_map_snd]
    exact List.pairwise_lt_range'
  refine hplaces.filterMap _ fun p q hlt i hi j hj => ?_
  dsimp only at hi hj
  split at hi
  · split at hj
    · exact Option.some.inj hi ▸ Option.some.inj hj ▸ hlt
    · cases hj
  · cases hi

/-- **Selectors select together what they select apart.** -/
theorem toFinset_select_append (g : Graph) (selectors more : List Name) :
    (g.select (selectors ++ more)).toFinset = (g.select selectors).toFinset ∪ (g.select more).toFinset := by
  ext i
  simp only [List.mem_toFinset, Finset.mem_union, mem_select, List.mem_append]
  constructor
  · rintro ⟨hi, s, hs | hs, hselects⟩
    · exact Or.inl ⟨hi, s, hs, hselects⟩
    · exact Or.inr ⟨hi, s, hs, hselects⟩
  · rintro (⟨hi, s, hs, hselects⟩ | ⟨hi, s, hs, hselects⟩)
    · exact ⟨hi, s, Or.inl hs, hselects⟩
    · exact ⟨hi, s, Or.inr hs, hselects⟩

/-- **One selector selects what it marks.** -/
theorem Valid.toFinset_select_singleton (hg : g.Valid) (s : Name) : (g.select [s]).toFinset = g.marks s := by
  ext i
  rw [List.mem_toFinset, mem_select]
  simp only [List.mem_singleton, exists_eq_left]
  unfold marks selects
  cases hs : g.id? s with
  | some k =>
    obtain ⟨hk, hname⟩ := hg.id?_eq_some.1 hs
    rw [Finset.mem_singleton, if_pos Option.isSome_some, decide_eq_true_iff]
    constructor
    · rintro ⟨hi, hname'⟩
      -- One name, one node.
      have hi' := hg.id?_eq_some.2 ⟨hi, hname'⟩
      exact Option.some.inj (hi'.symm.trans hs)
    · rintro rfl
      exact ⟨hk, hname⟩
  | none => rw [Finset.mem_filter, Finset.mem_range, if_neg (by simp), List.isPrefixOf_iff_prefix]

/-- **Selectors may be gone through one by one**, each adding what it marks. -/
theorem Valid.toFinset_select (hg : g.Valid) (selectors : List Name) :
    (g.select selectors).toFinset = selectors.foldl (fun ids s => ids ∪ g.marks s) ∅ := by
  induction selectors using List.reverseRecOn with
  | nil =>
    ext i
    simp [mem_select]
  | append_singleton selectors s ih =>
    rw [toFinset_select_append, ih, hg.toFinset_select_singleton, List.foldl_append]
    rfl

theorem sort_of_pairwise {ids : List Nat} (h : ids.Pairwise (· < ·)) : ids.toFinset.sort (· ≤ ·) = ids :=
  (List.toFinset_sort (· ≤ ·) h.nodup).2 (h.imp Nat.le_of_lt)

theorem sort_toFinset_select (g : Graph) (selectors : List Name) :
    (g.select selectors).toFinset.sort (· ≤ ·) = g.select selectors :=
  sort_of_pairwise (g.pairwise_select selectors)

theorem Valid.selection_select (hg : g.Valid) (selectors : List Name) :
    g.Selection selectors (g.select selectors) where
  ascending := g.pairwise_select selectors
  mem_iff := by
    intro i
    rw [mem_select]
    constructor
    · rintro ⟨hi, s, hs, hselects⟩
      exact ⟨hi, s, hs, (hg.selects_iff hi s).1 hselects⟩
    · rintro ⟨hi, s, hs, hselects⟩
      exact ⟨hi, s, hs, (hg.selects_iff hi s).2 hselects⟩
  marked := by
    rw [← hg.toFinset_select, sort_toFinset_select]

end

/-- **Selectors select exactly their nodes, each once, and together what they select one by one.** Of every graph that
    steps can make and every list of selectors: the selection is a union, it depends on the set of the selectors
    alone, and a package does not reach a node whose name goes on with anything but a dot. If the names and the
    selectors have been read from bytes, what is selected can be told from the bytes. -/
theorem select_exact (steps : List GraphStep) (selectors : List Name) :
    let g := (run {} steps).1
    g.Selection selectors (g.select selectors) ∧
      (∀ more, g.select (selectors ++ more) =
        ((g.select selectors).toFinset ∪ (g.select more).toFinset).sort (· ≤ ·)) ∧
      (∀ others, (∀ s, s ∈ others ↔ s ∈ selectors) → g.select others = g.select selectors) ∧
      (∀ (package : Name) (i : Nat) (c : Glyph) (rest : Name), g.nameOf i = withoutDot package ++ c :: rest →
        c ≠ .char '.' → i ∉ g.select [package]) ∧
      ((∀ s ∈ selectors, Loose.Settled s) → (∀ a ∈ g.names, Loose.Settled a) → ∀ i, i ∈ g.select selectors ↔
        i < g.size ∧ ∃ s ∈ selectors, g.SelectsBytes s.toBytes (g.nameOf i).toBytes) := by
  intro g
  have hg : g.Valid := (valid_run steps).1
  refine ⟨hg.selection_select selectors, ?_, ?_, ?_, ?_⟩
  · intro more
    rw [← toFinset_select_append, sort_toFinset_select]
  · intro others hothers
    refine List.Pairwise.eq_of_mem_iff (g.pairwise_select others) (g.pairwise_select selectors) fun i => ?_
    simp only [mem_select, hothers]
  · intro package i c rest hname hc hmem
    obtain ⟨-, s, hs, hselects⟩ := ((hg.selection_select [package]).mem_iff i).1 hmem
    obtain rfl := List.mem_singleton.1 hs
    rw [hname] at hselects
    exact not_selects_sibling hc hselects
  · intro hselectors hnames i
    rw [(hg.selection_select selectors).mem_iff i]
    refine and_congr_right fun hi => exists_congr fun s => and_congr_right fun hs => ?_
    exact selects_iff_bytes hnames (hselectors s hs) (hnames _ (nameOf_mem_names hi))

/-- A node that is named like a package is selected alone, unless the dot is written. -/
example :
    let name (s : String) : Name := Loose.ofString s
    let g := (run {} [.caller (name "shop"), .caller (name "shop.web"), .caller (name "shopping.web")]).1
    g.select [name "shop"] = [0] ∧ g.select [name "shop."] = [1] ∧
      g.select [name "shop.", name "shop", name "shop."] = [0, 1] := by
  decide +kernel

end Graph

end CallCoupling
