import CallCoupling.Proofs.Log.Reading

/-!
# Groups of derived handlers

A handler is derived from another by attaching attributes or by opening a group. A group that is opened qualifies
the attributes that come after it. So every attribute has a path of its own, the groups that were open when it was
attached (`HandlerStep.attached`), and `Compact.lineIn` is the line in which every key stands behind its path.

A handler keeps its attributes in one list and the open groups in one text, and it puts the text before every key.
What it writes is therefore the line in which all attributes have moved into the groups that are open in the end
(`Compact.line_derived`). The two lines agree as long as nothing is shown that was attached before a group was opened
(`Compact.lineIn_moved`); an attribute of which this is not true is shown under another key than its own
(`pathKey_eq_iff`).
-/

set_option autoImplicit false

namespace CallCoupling.Log

/-! ## 1. Keys behind a path -/

/-- A key behind the names of groups, outermost first. -/
def pathKey (path : List String) (key : String) : String := ".".intercalate (path ++ [key])

/-- The attribute inside the groups of a path. -/
def Attr.within (path : List String) (a : Attr) : Attr := { a with key := pathKey path a.key }

theorem pathKey_nil (key : String) : pathKey [] key = key := String.intercalate_singleton

theorem pathKey_cons (name : String) (path : List String) (key : String) :
    pathKey (name :: path) key = name ++ "." ++ pathKey path key :=
  String.intercalate_cons_of_ne_nil (by simp)

theorem length_pathKey_cons (name : String) (path : List String) (key : String) :
    (pathKey (name :: path) key).length = name.length + 1 + (pathKey path key).length := by
  rw [pathKey_cons, String.length_append, String.length_append]
  rfl

theorem length_le_pathKey (path : List String) (key : String) : key.length ≤ (pathKey path key).length := by
  induction path with
  | nil => rw [pathKey_nil]
  | cons name path ih =>
    rw [length_pathKey_cons]
    omega

/-- **A key behind further groups is another key.** -/
theorem pathKey_append_eq_iff (path later : List String) (key : String) :
    pathKey (path ++ later) key = pathKey path key ↔ later = [] := by
  constructor
  · intro hsame
    induction path with
    | nil =>
      cases later with
      | nil => rfl
      | cons name later =>
        -- The longer path makes the text longer.
        have hlength := congrArg String.length hsame
        have hkey := length_le_pathKey later key
        rw [List.nil_append, length_pathKey_cons, pathKey_nil] at hlength
        omega
    | cons name path ih =>
      rw [List.cons_append, pathKey_cons, pathKey_cons, String.append_right_inj] at hsame
      exact ih hsame
  · rintro rfl
    rw [List.append_nil]

def Named (path : List String) : Prop := ∀ name ∈ path, name ≠ ""

theorem pathKey_eq_empty {path : List String} {key : String} (h : pathKey path key = "") :
    path = [] ∧ key = "" := by
  cases path with
  | nil => exact ⟨rfl, (pathKey_nil key).symm.trans h⟩
  | cons name path =>
    have hlength := congrArg String.length h
    rw [length_pathKey_cons] at hlength
    exact absurd hlength (by simp)

theorem pathKey_concat (path : List String) (name key : String) :
    pathKey (path ++ [name]) key = pathKey path name ++ "." ++ key := by
  induction path with
  | nil => rw [List.nil_append, pathKey_cons, pathKey_nil, pathKey_nil]
  | cons first path ih =>
    rw [List.cons_append, pathKey_cons, pathKey_cons, ih]
    simp only [String.append_assoc]

theorem Compact.qualified_join {path : List String} (hpath : Named path) (key : String) :
    Compact.qualified (".".intercalate path) key = pathKey path key := by
  rcases List.eq_nil_or_concat path with rfl | ⟨path, name, rfl⟩
  · exact (pathKey_nil key).symm
  · rw [List.concat_eq_append] at hpath ⊢
    have hnonempty : ".".intercalate (path ++ [name]) ≠ "" := by
      intro hempty
      exact hpath name (by simp) (pathKey_eq_empty hempty).2
    rw [Compact.qualified, if_neg hnonempty, pathKey_concat]
    rfl

/-! ## 2. Derivations -/

inductive HandlerStep where
  | attach (given : List Attr)
  | group (name : String)
deriving DecidableEq

namespace HandlerStep

def group? : HandlerStep → Option String
  | .attach _ => none
  | .group name => some name

/-- The groups that are open in the end, outermost first. -/
def groups (ds : List HandlerStep) : List String := ds.filterMap group?

/-- The attributes that are attached, each with the groups that are open when it is; `opened` are open before. -/
def attachedFrom (opened : List String) : List HandlerStep → List (List String × Attr)
  | [] => []
  | .attach given :: ds => given.map (fun a => (opened, a)) ++ attachedFrom opened ds
  | .group name :: ds => attachedFrom (opened ++ [name]) ds

def attached (ds : List HandlerStep) : List (List String × Attr) := attachedFrom [] ds

theorem attachedFrom_append (opened : List String) (ds ds' : List HandlerStep) :
    attachedFrom opened (ds ++ ds') = attachedFrom opened ds ++ attachedFrom (opened ++ groups ds) ds' := by
  induction ds generalizing opened with
  | nil => simp [attachedFrom, groups]
  | cons d ds ih =>
    cases d with
    | attach given =>
      rw [List.cons_append, attachedFrom, attachedFrom, ih, List.append_assoc]
      rfl
    | group name =>
      rw [List.cons_append, attachedFrom, attachedFrom, ih, List.append_assoc]
      rfl

/-- An attribute is attached inside the first of the groups that are open in the end. -/
theorem exists_later {opened : List String} {ds : List HandlerStep} {p : List String × Attr}
    (hp : p ∈ attachedFrom opened ds) : ∃ later, opened ++ groups ds = p.1 ++ later := by
  induction ds generalizing opened with
  | nil => cases hp
  | cons d ds ih =>
    cases d with
    | attach given =>
      rw [attachedFrom, List.mem_append] at hp
      rcases hp with hp | hp
      · obtain ⟨a, -, rfl⟩ := List.mem_map.1 hp
        exact ⟨groups (.attach given :: ds), rfl⟩
      · exact ih hp
    | group name =>
      rw [attachedFrom] at hp
      obtain ⟨later, hlater⟩ := ih hp
      refine ⟨later, ?_⟩
      rw [← hlater, List.append_assoc]
      rfl

end HandlerStep

namespace Compact

open HandlerStep (groups attached)

def derive (h : Compact) : HandlerStep → Compact
  | .attach given => h.withAttrs given
  | .group name => h.withGroup name

/-- The handler after some derivations, from one that has neither attributes nor groups. -/
def derived (least : Level) (ds : List HandlerStep) : Compact := ds.foldl derive { least }

theorem derived_concat (least : Level) (ds : List HandlerStep) (d : HandlerStep) :
    derived least (ds ++ [d]) = (derived least ds).derive d := by
  rw [derived, List.foldl_append]
  rfl

/-- **What a derived handler holds**: all attributes, and the open groups joined by points. -/
theorem derived_eq (least : Level) {ds : List HandlerStep} (hnamed : Named (groups ds)) :
    derived least ds =
      { least, attrs := (attached ds).map Prod.snd, group := ".".intercalate (groups ds) } := by
  -- From the end: the step that is taken last works on what the ones before it have left.
  induction ds using List.reverseRecOn with
  | nil => rfl
  | append_singleton ds d ih =>
    have hgroups : groups (ds ++ [d]) = groups ds ++ groups [d] := List.filterMap_append
    have hattached : attached (ds ++ [d]) = attached ds ++ HandlerStep.attachedFrom (groups ds) [d] :=
      HandlerStep.attachedFrom_append [] ds [d]
    have hnamed' : Named (groups ds) := by
      intro name hname
      exact hnamed name (by rw [hgroups]; exact List.mem_append_left _ hname)
    rw [derived_concat, ih hnamed', hgroups, hattached]
    cases d with
    | attach given =>
      show Compact.mk least _ _ = Compact.mk least _ _
      simp [HandlerStep.attachedFrom, groups, HandlerStep.group?, Function.comp_def, List.filterMap_cons]
    | group name =>
      show Compact.mk least _ (qualified (".".intercalate (groups ds)) name) = Compact.mk least _ _
      rw [qualified_join hnamed' name]
      simp [HandlerStep.attachedFrom, groups, HandlerStep.group?, pathKey]

/-! ## 3. Lines -/

/-- **The line in which every key stands behind its path.** The attributes that are attached come with their paths,
    and those of the entry are inside the groups that are open. Components stand before the message and have no key;
    an attribute that says nothing is not shown. -/
def lineIn (attached : List (List String × Attr)) (opened : List String) (clock : String) (e : Entry) : Loose :=
  let given := (attached.filter fun p => p.2.key ≠ componentKey) ++ e.attrs.map fun a => (opened, a)
  ({ attrs := attached.map Prod.snd } : Compact).heading clock e ++
    (attrList "" ((given.filter fun p => !p.2.isEmpty).map fun p => p.2.within p.1) ++ [.char '\n'])

theorem attrList_join {path : List String} (hpath : Named path) (attrs : List Attr) :
    attrList (".".intercalate path) attrs =
      attrList "" ((attrs.filter fun a => !a.isEmpty).map fun a => a.within path) := by
  have hshown : ((attrs.filter fun a => !a.isEmpty).map fun a => a.within path).filter (fun a => !a.isEmpty) =
      (attrs.filter fun a => !a.isEmpty).map fun a => a.within path := by
    rw [List.filter_eq_self]
    intro b hb
    obtain ⟨a, ha, rfl⟩ := List.mem_map.1 hb
    have hnonempty := (List.mem_filter.1 ha).2
    simp only [Attr.isEmpty, Bool.not_eq_true', Bool.and_eq_false_iff, decide_eq_false_iff_not] at hnonempty ⊢
    rcases hnonempty with hkey | hvalue
    · exact Or.inl fun hempty => hkey (pathKey_eq_empty hempty).2
    · exact Or.inr hvalue
  unfold attrList
  rw [hshown]
  cases attrs.filter fun a => !a.isEmpty with
  | nil => rfl
  | cons a given =>
    have hkeys : ∀ a : Attr, Compact.attr { a with key := qualified (".".intercalate path) a.key } =
        Compact.attr { a.within path with key := qualified "" (a.within path).key } := by
      intro a
      rw [qualified_join hpath]
      rfl
    simp only [List.map_cons, List.flatMap_cons, List.flatMap_map, hkeys]

/-- The attributes inside the groups `opened`, wherever they were attached. -/
def moved (opened : List String) (attached : List (List String × Attr)) : List (List String × Attr) :=
  attached.map fun p => (opened, p.2)

/-- **A derived handler moves every attribute into the groups that are open in the end.** -/
theorem line_derived (least : Level) {ds : List HandlerStep} (hnamed : Named (groups ds)) (clock : String)
    (e : Entry) :
    (derived least ds).line clock e = lineIn (moved (groups ds) (attached ds)) (groups ds) clock e := by
  have hattrs : (moved (groups ds) (attached ds)).map Prod.snd = (attached ds).map Prod.snd := by
    rw [moved, List.map_map]
    rfl
  have hmoved : moved (groups ds) (attached ds) = ((attached ds).map Prod.snd).map fun a => (groups ds, a) := by
    rw [moved, List.map_map]
    rfl
  rw [derived_eq least hnamed, line_eq, attrList_join hnamed, lineIn, hattrs, hmoved, List.filter_map,
    ← List.map_append, List.filter_map, List.map_map]
  rfl

/-- The two lines are one if only components and attributes that say nothing were attached too early. -/
theorem lineIn_moved {attached : List (List String × Attr)} {opened : List String}
    (hlate : ∀ p ∈ attached, p.1 = opened ∨ p.2.key = componentKey ∨ p.2.isEmpty = true) (clock : String)
    (e : Entry) : lineIn (moved opened attached) opened clock e = lineIn attached opened clock e := by
  have hattrs : (moved opened attached).map Prod.snd = attached.map Prod.snd := by
    rw [moved, List.map_map]
    rfl
  have hshown : ((attached.filter fun p => p.2.key ≠ componentKey).filter fun p => !p.2.isEmpty).map
        (fun p => p.2.within opened) =
      ((attached.filter fun p => p.2.key ≠ componentKey).filter fun p => !p.2.isEmpty).map
        fun p => p.2.within p.1 := by
    apply List.map_congr_left
    intro p hp
    obtain ⟨hp, hsays⟩ := List.mem_filter.1 hp
    obtain ⟨hp, hkey⟩ := List.mem_filter.1 hp
    -- Of the three reasons why the path does not matter, two do not hold of what is shown.
    rcases hlate p hp with hpath | hcomponent | hempty
    · rw [hpath]
    · exact absurd hcomponent (of_decide_eq_true hkey)
    · rw [hempty] at hsays
      cases hsays
  unfold lineIn
  simp only [hattrs, List.filter_append, List.map_append]
  rw [← hshown, moved, List.filter_map, List.filter_map, List.map_map]
  rfl

end Compact

end CallCoupling.Log
