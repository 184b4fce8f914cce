import CallCoupling.Graph.Build
import CallCoupling.Proofs.Graph.History

/-!
# What the graph of parents and children is

`Graph.build` visits parents and their children one after the other and keeps a graph on the way. Here the
same graph is described without the visit. `places` lists what is visited, in order; then

* there is a graph exactly if every place has a name that is not empty, and otherwise the error is the
  defect of the first place that has one (`Place.defect?`);
* the graph shows the picture of the sightings at those places (`sightings`), so its ids are ranks of first
  occurrence, its states tell parents from mere children, and its counts and links are those of the child
  places.

The induction is over the parents, with the children of one parent as an inner one, and the invariant that
carries it is `Graph.Shows` of the history so far. That the id of a parent stays the id of its name while its
children are added is `History.getElem?_picture_append`; it is what keeps `addCallee` from ever refusing its
caller.
-/

set_option autoImplicit false

namespace CallCoupling

/-- A place of the visit: a parent, or a child of a parent. -/
inductive Place (P C : Type) where
  | parent (p : P)
  | child (p : P) (c : C)

/-- The places in the order of the visit: each parent, followed by its children. -/
def places {P C : Type} (children : P → List C) (parents : List P) : List (Place P C) :=
  parents.flatMap fun p => .parent p :: (children p).map (.child p)

section

variable {P C ε : Type} (children : P → List C) (parentName : P → Except ε Name)
  (childName : C → Except ε Name)

namespace Place

/-- What the identity functions say of a place. -/
def identity : Place P C → Except ε Name
  | .parent p => parentName p
  | .child _ c => childName c

/-- The place has an identity, and it is not empty. -/
def Named (place : Place P C) : Prop := ∃ a, place.identity parentName childName = .ok a ∧ a ≠ []

/-- The defect of a place, as it is reported: an error of the identity function comes before an empty
    name, and a child's defect is reported under the name of its parent. -/
def defect? : Place P C → Option (BuildError ε)
  | .parent p =>
    match parentName p with
    | .error e => some (.parentIdentity e)
    | .ok a => if a = [] then some (.parent .emptyCaller) else none
  | .child p c =>
    let owner := (parentName p).toOption.getD []
    match childName c with
    | .error e => some (.childIdentity owner e)
    | .ok b => if b = [] then some (.child owner .emptyCallee) else none

/-- What a graph learns at a place. -/
def sighting? : Place P C → Option Sighting
  | .parent p => (parentName p).toOption.map .caller
  | .child p c =>
    (parentName p).toOption.bind fun a => (childName c).toOption.map fun b => .call a b

end Place

/-- What a graph learns on a visit without defects. -/
def sightings (parents : List P) : History :=
  (places children parents).filterMap (Place.sighting? parentName childName)

/-- The names on a visit, in order, with all their repeats. -/
def visited (parents : List P) : List Name :=
  (places children parents).filterMap fun place =>
    (place.identity parentName childName).toOption

/-- **The graph of a visit, described without the visit.** -/
structure Graph.Records (g : Graph) (parents : List P) : Prop where
  names : g.names = (visited children parentName childName parents).eraseDups
  /-- The id of a name is its rank among the first occurrences. -/
  id? : ∀ a, g.id? a = (visited children parentName childName parents).eraseDups.idxOf? a
  confirmed : ∀ a i, g.id? a = some i →
    (g.stateOf i = .confirmed ↔ ∃ p ∈ parents, parentName p = .ok a)
  calleeOnly : ∀ a i, g.id? a = some i →
    (g.stateOf i = .calleeOnly ↔ ¬ ∃ p ∈ parents, parentName p = .ok a)
  multiplicity : ∀ a i, g.id? a = some i →
    g.multiplicityOf i = (parents.flatMap children).countP fun c => (childName c).toOption = some a
  links : ∀ a b i j, g.id? a = some i → g.id? b = some j →
    (j ∈ g.calleesOf i ↔
      ∃ p ∈ parents, parentName p = .ok a ∧ ∃ c ∈ children p, childName c = .ok b)

/-! ## 1. Places -/

theorem places_cons (p : P) (ps : List P) :
    places children (p :: ps) = .parent p :: (children p).map (.child p) ++ places children ps := by
  simp [places]

theorem mem_places_parent {p : P} {ps : List P} :
    Place.parent p ∈ places children ps ↔ p ∈ ps := by
  simp [places]

theorem mem_places_child {p : P} {c : C} {ps : List P} :
    Place.child p c ∈ places children ps ↔ p ∈ ps ∧ c ∈ children p := by
  simp only [places, List.mem_flatMap, List.mem_cons, List.mem_map]
  constructor
  · rintro ⟨q, hq, hplace | ⟨d, hd, hplace⟩⟩
    · cases hplace
    · cases hplace
      exact ⟨hq, hd⟩
  · rintro ⟨hp, hc⟩
    exact ⟨p, hp, Or.inr ⟨c, hc, rfl⟩⟩

theorem Place.defect?_eq_none_iff (place : Place P C) :
    place.defect? parentName childName = none ↔ place.Named parentName childName := by
  unfold Place.Named
  cases place with
  | parent p =>
    cases hp : parentName p with
    | error e => simp [defect?, identity, hp]
    | ok a => simp [defect?, identity, hp]
  | child p c =>
    cases hc : childName c with
    | error e => simp [defect?, identity, hc]
    | ok b => simp [defect?, identity, hc]

/-! ## 2. The visit

Both loops are described by what they answer: the first defect, or a graph that shows what there was to see.
`History` is extended on the right, as the loops go. -/

theorem Graph.Shows.addChildren {g : Graph} {h : History} (hg : g.Shows h.picture) (hs : h.Sound)
    {p : P} {a : Name} {i : Nat} (hp : parentName p = .ok a) (hi : g.names[i]? = some a)
    (ha : a ∈ h.callers) (cs : List C) :
    (∃ e, (cs.map (Place.child p)).findSome? (Place.defect? parentName childName) = some e ∧
        Graph.addChildren childName i a cs g = .error e) ∨
      ((cs.map (Place.child p)).findSome? (Place.defect? parentName childName) = none ∧
        ∃ g' more, more = (cs.map (Place.child p)).filterMap (Place.sighting? parentName childName) ∧
          Graph.addChildren childName i a cs g = .ok g' ∧
          g'.Shows (History.picture (h ++ more)) ∧ History.Sound (h ++ more)) := by
  induction cs generalizing g h with
  | nil => exact Or.inr ⟨rfl, g, [], rfl, rfl, by rw [List.append_nil]; exact ⟨hg, hs⟩⟩
  | cons c cs ih =>
    rw [List.map_cons, List.findSome?_cons, List.filterMap_cons]
    simp only [Place.defect?, Place.sighting?, hp, Except.toOption, Option.getD_some, Option.bind_some]
    unfold Graph.addChildren
    cases hc : childName c with
    | error e => exact Or.inl ⟨.childIdentity a e, rfl, rfl⟩
    | ok b =>
      by_cases hb : b = []
      · subst hb
        exact Or.inl ⟨.child a .emptyCallee, rfl, rfl⟩
      · obtain ⟨g', j, hstep, -, hg'⟩ := hg.addCallee hs hi ha hb
        have hs' := hs.call ha hb
        -- The id and the name of the parent stay together, so the rest is added to the same caller.
        have hi' : g'.names[i]? = some a := by
          rw [hg.names] at hi
          rw [hg'.names]
          exact History.getElem?_picture_append hi _
        have ha' : a ∈ History.callers (h ++ [Sighting.call a b]) := by
          rw [History.callers_append]
          exact List.mem_append_left _ ha
        simp only [if_neg hb, hstep, Option.map_some]
        rcases ih hg' hs' hi' ha' with ⟨e, hfirst, herr⟩ | ⟨hnone, g'', more, hmore, hok, hg'', hs''⟩
        · exact Or.inl ⟨e, hfirst, herr⟩
        · rw [List.append_assoc, List.singleton_append] at hg'' hs''
          exact Or.inr ⟨hnone, g'', .call a b :: more, by rw [hmore], hok, hg'', hs''⟩

theorem Graph.Shows.addParents {g : Graph} {h : History} (hg : g.Shows h.picture) (hs : h.Sound)
    (ps : List P) :
    (∃ e, (places children ps).findSome? (Place.defect? parentName childName) = some e ∧
        Graph.addParents children parentName childName ps g = .error e) ∨
      ((places children ps).findSome? (Place.defect? parentName childName) = none ∧
        ∃ g', Graph.addParents children parentName childName ps g = .ok g' ∧
          g'.Shows (History.picture (h ++ sightings children parentName childName ps)) ∧
          History.Sound (h ++ sightings children parentName childName ps)) := by
  induction ps generalizing g h with
  | nil => exact Or.inr ⟨rfl, g, rfl, by rw [sightings]; simpa [places] using ⟨hg, hs⟩⟩
  | cons p ps ih =>
    rw [sightings, places_cons, List.cons_append, List.findSome?_cons, List.filterMap_cons]
    simp only [Place.defect?, Place.sighting?]
    unfold Graph.addParents
    cases hp : parentName p with
    | error e => exact Or.inl ⟨.parentIdentity e, rfl, rfl⟩
    | ok a =>
      by_cases ha : a = []
      · subst ha
        exact Or.inl ⟨.parent .emptyCaller, rfl, rfl⟩
      · obtain ⟨g₁, i, hstep, hi, hg₁⟩ := hg.addCaller hs ha
        have hs₁ := hs.caller ha
        have hcaller : a ∈ History.callers (h ++ [Sighting.caller a]) := by
          rw [History.callers_append]
          exact List.mem_append_right _ List.mem_cons_self
        simp only [if_neg ha, hstep, Except.toOption, Option.map_some, List.findSome?_append,
          List.filterMap_append]
        -- A defect of a child ends the visit before the next parent is looked at.
        rcases hg₁.addChildren parentName childName hs₁ hp hi hcaller (children p) with
          ⟨e, hfirst, herr⟩ | ⟨hnone, g₂, more, hmore, hok, hg₂, hs₂⟩
        · exact Or.inl ⟨e, by rw [hfirst]; rfl, by rw [herr]⟩
        · rw [hnone, hok, ← hmore]
          rcases ih hg₂ hs₂ with ⟨e, hfirst, herr⟩ | ⟨hnone', g₃, hok', hg₃, hs₃⟩
          · exact Or.inl ⟨e, hfirst, herr⟩
          · rw [List.append_assoc, List.append_assoc] at hg₃ hs₃
            exact Or.inr ⟨hnone', g₃, hok', hg₃, hs₃⟩

/-! ## 3. The history of a visit, read off the parents -/

theorem toOption_eq_some {α : Type} {x : Except ε α} {a : α} : x.toOption = some a ↔ x = .ok a := by
  cases x with
  | error e => simp [Except.toOption]
  | ok b => simp [Except.toOption]

theorem mem_callers_sightings {parents : List P} {a : Name} :
    a ∈ (sightings children parentName childName parents).callers ↔
      ∃ p ∈ parents, parentName p = .ok a := by
  simp only [sightings, History.callers, List.mem_filterMap]
  constructor
  · rintro ⟨s, ⟨place, hplace, hsight⟩, hcaller⟩
    cases place with
    | parent p =>
      obtain ⟨b, hb, rfl⟩ := Option.map_eq_some_iff.mp hsight
      cases hcaller
      exact ⟨p, (mem_places_parent children).mp hplace, toOption_eq_some.mp hb⟩
    | child p c =>
      obtain ⟨b, -, hsight⟩ := Option.bind_eq_some_iff.mp hsight
      obtain ⟨d, -, rfl⟩ := Option.map_eq_some_iff.mp hsight
      cases hcaller
  · rintro ⟨p, hp, hpa⟩
    refine ⟨.caller a, ⟨.parent p, (mem_places_parent children).mpr hp, ?_⟩, rfl⟩
    simp [Place.sighting?, hpa, Except.toOption]

theorem mem_calls_sightings {parents : List P} {a b : Name} :
    (a, b) ∈ (sightings children parentName childName parents).calls ↔
      ∃ p ∈ parents, parentName p = .ok a ∧ ∃ c ∈ children p, childName c = .ok b := by
  simp only [sightings, History.calls, List.mem_filterMap]
  constructor
  · rintro ⟨s, ⟨place, hplace, hsight⟩, hcall⟩
    cases place with
    | parent p =>
      obtain ⟨d, -, rfl⟩ := Option.map_eq_some_iff.mp hsight
      cases hcall
    | child p c =>
      obtain ⟨d, hd, hsight⟩ := Option.bind_eq_some_iff.mp hsight
      obtain ⟨d', hd', rfl⟩ := Option.map_eq_some_iff.mp hsight
      cases hcall
      obtain ⟨hp, hc⟩ := (mem_places_child children).mp hplace
      exact ⟨p, hp, toOption_eq_some.mp hd, c, hc, toOption_eq_some.mp hd'⟩
  · rintro ⟨p, hp, hpa, c, hc, hcb⟩
    refine ⟨.call a b, ⟨.child p c, (mem_places_child children).mpr ⟨hp, hc⟩, ?_⟩, rfl⟩
    simp [Place.sighting?, hpa, hcb, Except.toOption]

/-- Where every place is named, each is seen under its own name. -/
theorem names_sightings {parents : List P}
    (hnamed : ∀ place ∈ places children parents, place.Named parentName childName) :
    (sightings children parentName childName parents).names =
      visited children parentName childName parents := by
  rw [History.names, sightings, visited, List.map_filterMap]
  apply List.filterMap_congr
  intro place hplace
  cases place with
  | parent p => cases hp : parentName p <;> simp [Place.sighting?, Place.identity, hp, Except.toOption,
      Sighting.name]
  | child p c =>
    have hp := ((mem_places_child children).mp hplace).1
    obtain ⟨a, hpa, -⟩ := hnamed (.parent p) ((mem_places_parent children).mpr hp)
    have hpa' : parentName p = .ok a := hpa
    cases hc : childName c <;> simp [Place.sighting?, Place.identity, hpa', hc, Except.toOption,
      Sighting.name]

/-- A child place is one call site, whoever its parent is. -/
theorem callsTo_sightings {parents : List P} (hnamed : ∀ p ∈ parents, ∃ a, parentName p = .ok a)
    (b : Name) :
    (sightings children parentName childName parents).callsTo b =
      (parents.flatMap children).countP fun c => (childName c).toOption = some b := by
  rw [History.callsTo, History.calls, sightings, List.countP_filterMap, List.countP_filterMap, places,
    List.countP_flatMap, List.countP_flatMap]
  congr 1
  apply List.map_congr_left
  intro p hp
  obtain ⟨a, hpa⟩ := hnamed p hp
  simp only [Function.comp_apply, List.countP_cons, List.countP_map]
  have hparent : (((Place.sighting? (C := C) parentName childName (.parent p)).map fun s =>
      ((s.call?).map fun call => decide (call.2 = b)).getD false).getD false) = false := by
    simp [Place.sighting?, hpa, Except.toOption, Sighting.call?]
  rw [hparent]
  simp only [Bool.false_eq_true, if_false, Nat.add_zero]
  apply List.countP_congr
  intro c _
  cases hc : childName c <;>
    simp [Place.sighting?, hpa, hc, Except.toOption, Sighting.call?]

/-! ## 4. The graph and the error -/

theorem Graph.Shows.records {g : Graph} {parents : List P}
    (hg : g.Shows (sightings children parentName childName parents).picture)
    (hnamed : ∀ place ∈ places children parents, place.Named parentName childName) :
    g.Records children parentName childName parents := by
  have hnames : g.names = (visited children parentName childName parents).eraseDups := by
    rw [hg.names, ← names_sightings children parentName childName hnamed]
    rfl
  have hparents : ∀ p ∈ parents, ∃ a, parentName p = .ok a := by
    intro p hp
    obtain ⟨a, ha, -⟩ := hnamed (.parent p) ((mem_places_parent children).mpr hp)
    exact ⟨a, ha⟩
  have hstate : ∀ a i, g.id? a = some i →
      g.stateOf i = if a ∈ (sightings children parentName childName parents).callers then
        .confirmed else .calleeOnly := by
    intro a i hi
    have hget := hg.id?_eq_some.mp hi
    have hmem : a ∈ g.names := List.mem_of_getElem? hget
    rw [hg.names] at hmem
    rw [hg.stateOf hget]
    show History.stateOf _ a = _
    rw [History.stateOf, if_pos (List.mem_eraseDups.mp hmem)]
  refine ⟨hnames, ?_, ?_, ?_, ?_, ?_⟩
  · intro a
    rw [← hnames]
    exact hg.indexed.lookup_eq_idxOf? a
  · intro a i hi
    rw [hstate a i hi, ← mem_callers_sightings children parentName childName]
    split
    · simp [*]
    · simp [*]
  · intro a i hi
    rw [hstate a i hi, ← mem_callers_sightings children parentName childName]
    split
    · simp [*]
    · simp [*]
  · intro a i hi
    rw [hg.multiplicityOf (hg.id?_eq_some.mp hi)]
    exact callsTo_sightings children parentName childName hparents a
  · intro a b i j hi hj
    rw [hg.mem_calleesOf_iff (hg.id?_eq_some.mp hi) (hg.id?_eq_some.mp hj)]
    exact mem_calls_sightings children parentName childName

/-- What went wrong, without the headings that say where. -/
def BuildError.root (inner : ε → Failure) : BuildError ε → Failure
  | .parentIdentity e | .childIdentity _ e => inner e
  | .parent e | .child _ e => e.failure

/-- Headings are put before a failure: its cause and its text are still there. -/
theorem BuildError.failure_wraps (inner : ε → Failure) (e : BuildError ε) :
    (BuildError.failure inner e).cause = (e.root inner).cause ∧
      (e.root inner).message <:+ (BuildError.failure inner e).message := by
  cases e with
  | parentIdentity e => exact ⟨rfl, List.suffix_append _ _⟩
  | parent e => exact ⟨rfl, List.suffix_refl _⟩
  | childIdentity p e => exact ⟨rfl, List.suffix_append _ _⟩
  | child p e => exact ⟨rfl, List.suffix_append _ _⟩

theorem findSome?_defect_eq_none {parents : List P} :
    (places children parents).findSome? (Place.defect? parentName childName) = none ↔
      ∀ place ∈ places children parents, place.Named parentName childName := by
  rw [List.findSome?_eq_none_iff]
  constructor
  · intro hnone place hplace
    exact (Place.defect?_eq_none_iff parentName childName place).mp (hnone place hplace)
  · intro hnamed place hplace
    exact (Place.defect?_eq_none_iff parentName childName place).mpr (hnamed place hplace)

/-- What a visit answers, with both outcomes side by side. -/
theorem Graph.build_cases (parents : List P) :
    (∃ e, (places children parents).findSome? (Place.defect? parentName childName) = some e ∧
        Graph.build parents children parentName childName = .error e) ∨
      ((∀ place ∈ places children parents, place.Named parentName childName) ∧
        ∃ g, Graph.build parents children parentName childName = .ok g ∧
          g.Shows (sightings children parentName childName parents).picture ∧
          (sightings children parentName childName parents).Sound) := by
  have hempty : Graph.Shows {} (History.picture []) := Graph.shows_empty rfl
  rcases hempty.addParents children parentName childName History.sound_nil parents with
    hdefect | ⟨hnone, g, hok, hg, hs⟩
  · exact Or.inl hdefect
  · rw [List.nil_append] at hg hs
    exact Or.inr ⟨(findSome?_defect_eq_none children parentName childName).mp hnone, g, hok, hg, hs⟩

/-- **A visit builds the graph of its places, or reports their first defect.** There is a graph exactly if
    every place is named; the error is that of the first place with a defect, under headings that keep its
    cause and text; and the graph is determined by the parents, their children and the two identity
    functions. -/
theorem Graph.build_spec (parents : List P) :
    ((∃ g, Graph.build parents children parentName childName = .ok g) ↔
        ∀ place ∈ places children parents, place.Named parentName childName) ∧
      (∀ e, Graph.build parents children parentName childName = .error e ↔
        (places children parents).findSome? (Place.defect? parentName childName) = some e) ∧
      (∀ (inner : ε → Failure) (e : BuildError ε),
        (BuildError.failure inner e).cause = (e.root inner).cause ∧
          (e.root inner).message <:+ (BuildError.failure inner e).message) ∧
      ∀ g, Graph.build parents children parentName childName = .ok g →
        g.Records children parentName childName parents := by
  rcases Graph.build_cases children parentName childName parents with
    ⟨e, hfirst, herr⟩ | ⟨hnamed, g, hok, hg, -⟩
  · refine ⟨⟨?_, ?_⟩, ?_, BuildError.failure_wraps, ?_⟩
    · rintro ⟨g, hok⟩
      rw [herr] at hok
      cases hok
    · intro hnamed
      rw [(findSome?_defect_eq_none children parentName childName).mpr hnamed] at hfirst
      cases hfirst
    · intro e'
      rw [herr, hfirst, Except.error.injEq, Option.some.injEq]
    · intro g hok
      rw [herr] at hok
      cases hok
  · refine ⟨⟨fun _ => hnamed, fun _ => ⟨g, hok⟩⟩, ?_, BuildError.failure_wraps, ?_⟩
    · intro e
      rw [hok, (findSome?_defect_eq_none children parentName childName).mpr hnamed]
      exact ⟨nofun, nofun⟩
    · intro g' hok'
      rw [hok] at hok'
      cases hok'
      exact hg.records children parentName childName hnamed

end

end CallCoupling
