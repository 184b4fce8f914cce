import CallCoupling.Proofs.Log.Groups

/-!
# Handlers that share memory

`Compact` holds its attributes as a list, and lists are never changed. In memory a list is a stretch of an array, and
an array may be shared: a handler with one more group keeps the array of the handler that it is derived from, and
items can be appended in place where an array has room behind them. That a derived handler leaves its parent alone is
then no matter of course. It holds because attributes are attached in an array that is made for them and copied into
it; the old array is read and not written.

A family is handlers over one memory, each derived from one that was there before. `Family.run_reads` says that
memory is no more than an economy: whatever is derived from whatever, every member reads as the handler that is
derived by its own steps alone. So it writes what `Compact.line_derived` says of these steps, at every later time.
-/

set_option autoImplicit false

namespace CallCoupling.Log

/-! ## 1. Arrays -/

/-- Arrays by their addresses. -/
abbrev Memory := List (List Attr)

/-- The first items of an array. -/
structure Slice where
  address : Nat
  length : Nat

namespace Memory

variable {m : Memory} {s t : Slice}

def array (m : Memory) (s : Slice) : List Attr := (m[s.address]?).getD []

def read (m : Memory) (s : Slice) : List Attr := (m.array s).take s.length

/-- An empty slice of a new array with room for some items. -/
def make (m : Memory) (room : Nat) : Memory × Slice :=
  (m ++ [List.replicate room ⟨"", .nothing⟩], ⟨m.length, 0⟩)

/-- The slice with more items behind it: in place if there is room, else in a new array. -/
def append (m : Memory) (s : Slice) (more : List Attr) : Memory × Slice :=
  let length := s.length + more.length
  if length ≤ (m.array s).length then
    (m.set s.address (m.read s ++ more ++ (m.array s).drop length), ⟨s.address, length⟩)
  else (m ++ [m.read s ++ more], ⟨m.length, length⟩)

/-- The slice lies inside an array of the memory. -/
structure Holds (m : Memory) (s : Slice) : Prop where
  address : s.address < m.length
  length : s.length ≤ (m.array s).length

/-- What `m` holds is held by `m'` too, and reads the same. -/
def Keeps (m m' : Memory) : Prop := ∀ s, m.Holds s → m'.Holds s ∧ m'.read s = m.read s

theorem Keeps.refl (m : Memory) : m.Keeps m := fun _ hs => ⟨hs, rfl⟩

theorem Keeps.trans {m m' m'' : Memory} (h : m.Keeps m') (h' : m'.Keeps m'') : m.Keeps m'' := by
  intro s hs
  obtain ⟨hs', hread⟩ := h s hs
  obtain ⟨hs'', hread'⟩ := h' s hs'
  exact ⟨hs'', hread'.trans hread⟩

theorem Holds.length_read (hs : m.Holds s) : (m.read s).length = s.length := by
  rw [read, List.length_take]
  exact Nat.min_eq_left hs.length

theorem keeps_concat (m : Memory) (new : List Attr) : m.Keeps (m ++ [new]) := by
  intro s hs
  have harray : array (m ++ [new]) s = m.array s := by
    rw [array, List.getElem?_append_left hs.address]
    rfl
  refine ⟨⟨?_, ?_⟩, ?_⟩
  · rw [List.length_append]
    exact Nat.lt_add_right _ hs.address
  · rw [harray]
    exact hs.length
  · rw [read, harray]
    rfl

theorem holds_make (m : Memory) (room : Nat) :
    (m.make room).1.Holds (m.make room).2 ∧ (m.make room).1.read (m.make room).2 = [] := by
  refine ⟨⟨?_, Nat.zero_le _⟩, List.take_zero⟩
  show m.length < (m ++ [_]).length
  rw [List.length_append]
  exact Nat.lt_succ_self _

/-- **Appending adds the items** behind those of the slice, in its own array or in a new one. -/
theorem Holds.append (hs : m.Holds s) (more : List Attr) :
    (m.append s more).1.Holds (m.append s more).2 ∧
      (m.append s more).1.read (m.append s more).2 = m.read s ++ more ∧
      s.address ≤ (m.append s more).2.address := by
  have hlength : (m.read s ++ more).length = s.length + more.length := by
    rw [List.length_append, hs.length_read]
  unfold Memory.append
  dsimp only
  split
  · rename_i hroom
    have harray : array (m.set s.address (m.read s ++ more ++ (m.array s).drop (s.length + more.length)))
        ⟨s.address, s.length + more.length⟩ =
          m.read s ++ more ++ (m.array s).drop (s.length + more.length) := by
      rw [array, List.getElem?_set_self hs.address]
      rfl
    refine ⟨⟨?_, ?_⟩, ?_, Nat.le_refl _⟩
    · rw [List.length_set]
      exact hs.address
    · rw [harray, List.length_append, hlength]
      exact Nat.le_add_right _ _
    · rw [read, harray]
      exact List.take_left' hlength
  · have harray : array (m ++ [m.read s ++ more]) ⟨m.length, s.length + more.length⟩ = m.read s ++ more := by
      simp [array]
    refine ⟨⟨?_, ?_⟩, ?_, Nat.le_of_lt hs.address⟩
    · rw [List.length_append]
      exact Nat.lt_succ_self _
    · rw [harray, hlength]
    · rw [read, harray]
      exact List.take_of_length_le (Nat.le_of_eq hlength)

theorem read_append_of_lt (more : List Attr) (ht : m.Holds t) (hlt : t.address < s.address) :
    (m.append s more).1.Holds t ∧ (m.append s more).1.read t = m.read t := by
  unfold Memory.append
  dsimp only
  split
  · have harray : ∀ new, array (m.set s.address new) t = m.array t := by
      intro new
      rw [array, List.getElem?_set_ne (Nat.ne_of_gt hlt)]
      rfl
    refine ⟨⟨?_, ?_⟩, ?_⟩
    · rw [List.length_set]
      exact ht.address
    · rw [harray]
      exact ht.length
    · rw [read, harray]
      rfl
  · exact keeps_concat m _ t ht

end Memory

/-! ## 2. Handlers in memory -/

/-- A handler that keeps its attributes in memory. -/
structure Stored where
  least : Level
  attrs : Slice
  group : String

namespace Stored

variable {m : Memory} {h : Stored}

def shown (m : Memory) (h : Stored) : Compact := { least := h.least, attrs := m.read h.attrs, group := h.group }

/-- Attach attributes: make room for the old ones and the new ones, and copy both. -/
def withAttrs (m : Memory) (h : Stored) (given : List Attr) : Memory × Stored :=
  let (made, fresh) := m.make (h.attrs.length + given.length)
  let (copied, old) := made.append fresh (m.read h.attrs)
  let (filled, all) := copied.append old given
  (filled, { h with attrs := all })

def derive (m : Memory) (h : Stored) : HandlerStep → Memory × Stored
  | .attach given => h.withAttrs m given
  -- The attributes are shared, not copied.
  | .group name => (m, { h with group := Compact.qualified h.group name })

theorem withAttrs_spec (m : Memory) (h : Stored) (given : List Attr) :
    m.Keeps (h.withAttrs m given).1 ∧ (h.withAttrs m given).1.Holds (h.withAttrs m given).2.attrs ∧
      (h.withAttrs m given).2.shown (h.withAttrs m given).1 = (h.shown m).withAttrs given := by
  -- The three memories on the way, and the slice that grows in them.
  let made := m.make (h.attrs.length + given.length)
  let copied := made.1.append made.2 (m.read h.attrs)
  let filled := copied.1.append copied.2 given
  obtain ⟨hfresh, hempty⟩ := Memory.holds_make m (h.attrs.length + given.length)
  obtain ⟨hold, hcopied, hafter⟩ := hfresh.append (m.read h.attrs)
  obtain ⟨hall, hfilled, -⟩ := hold.append given
  have hread : filled.1.read filled.2 = m.read h.attrs ++ given := by
    rw [hempty, List.nil_append] at hcopied
    rw [hcopied] at hfilled
    exact hfilled
  refine ⟨?_, hall, ?_⟩
  · -- All writes go to the array that was made, and what was there before lies below it.
    intro t ht
    have hlt : t.address < made.2.address := ht.address
    obtain ⟨htmade, hmade⟩ := Memory.keeps_concat m _ t ht
    obtain ⟨htcopied, hcopied⟩ := Memory.read_append_of_lt (m.read h.attrs) htmade hlt
    obtain ⟨htfilled, hfilled⟩ :=
      Memory.read_append_of_lt given htcopied (Nat.lt_of_lt_of_le hlt hafter)
    exact ⟨htfilled, hfilled.trans (hcopied.trans hmade)⟩
  · show Compact.mk h.least (filled.1.read filled.2) h.group = Compact.mk h.least (m.read h.attrs ++ given) h.group
    rw [hread]

/-- **A derived handler reads as one derived from a value**, and what the memory held it still holds. -/
theorem derive_spec (hs : m.Holds h.attrs) (d : HandlerStep) :
    m.Keeps (h.derive m d).1 ∧ (h.derive m d).1.Holds (h.derive m d).2.attrs ∧
      (h.derive m d).2.shown (h.derive m d).1 = (h.shown m).derive d := by
  cases d with
  | attach given => exact withAttrs_spec m h given
  | group name => exact ⟨Memory.Keeps.refl m, hs, rfl⟩

end Stored

/-! ## 3. Families -/

structure Family where
  memory : Memory
  members : List Stored

namespace Family

/-- A handler without attributes and groups. -/
def new (least : Level) : Family := { memory := [[]], members := [⟨least, ⟨0, 0⟩, ""⟩] }

def derive (f : Family) (i : Nat) (d : HandlerStep) : Family :=
  match f.members[i]? with
  | none => f
  | some h =>
    let (memory, child) := h.derive f.memory d
    { memory, members := f.members ++ [child] }

def run (f : Family) (steps : List (Nat × HandlerStep)) : Family :=
  steps.foldl (fun f step => f.derive step.1 step.2) f

def handler? (f : Family) (i : Nat) : Option Compact := f.members[i]?.map (Stored.shown f.memory)

/-- The steps by which each member was derived from the first one. -/
def histories (steps : List (Nat × HandlerStep)) : List (List HandlerStep) :=
  steps.foldl (fun histories step =>
    match histories[step.1]? with
    | none => histories
    | some ds => histories ++ [ds ++ [step.2]]) [[]]

/-- The member reads as the handler that is derived by these steps. -/
structure Reads (m : Memory) (least : Level) (h : Stored) (ds : List HandlerStep) : Prop where
  holds : m.Holds h.attrs
  shown : h.shown m = Compact.derived least ds

theorem Reads.keeps {m m' : Memory} {least : Level} {h : Stored} {ds : List HandlerStep}
    (hr : Reads m least h ds) (hm : m.Keeps m') : Reads m' least h ds := by
  obtain ⟨hholds, hread⟩ := hm h.attrs hr.holds
  refine ⟨hholds, ?_⟩
  rw [← hr.shown, Stored.shown, hread]
  rfl

/-- **Every member of a family reads as derived by its own steps**, whatever the others do. -/
theorem run_reads (least : Level) (steps : List (Nat × HandlerStep)) :
    List.Forall₂ (Reads ((new least).run steps).memory least) ((new least).run steps).members
      (histories steps) := by
  induction steps using List.reverseRecOn with
  | nil =>
    refine List.Forall₂.cons ⟨⟨Nat.zero_lt_one, Nat.le_refl _⟩, rfl⟩ List.Forall₂.nil
  | append_singleton steps step ih =>
    obtain ⟨i, d⟩ := step
    have hrun : (new least).run (steps ++ [(i, d)]) = ((new least).run steps).derive i d := by
      rw [run, List.foldl_append]
      rfl
    have hhistories : histories (steps ++ [(i, d)]) =
        match (histories steps)[i]? with
        | none => histories steps
        | some ds => histories steps ++ [ds ++ [d]] := by
      rw [histories, List.foldl_append]
      rfl
    rw [hrun, hhistories, derive]
    cases hi : ((new least).run steps).members[i]? with
    | none =>
      have hout : (histories steps)[i]? = none := by
        rw [List.getElem?_eq_none_iff] at hi ⊢
        exact ih.length_eq ▸ hi
      rw [hout]
      exact ih
    | some h =>
      obtain ⟨hlt, hget⟩ := List.getElem?_eq_some_iff.1 hi
      have hlt' : i < (histories steps).length := ih.length_eq ▸ hlt
      have hreads := ih.get hlt hlt'
      rw [List.get_eq_getElem, hget] at hreads
      rw [List.getElem?_eq_getElem hlt']
      obtain ⟨hkeeps, hholds, hshown⟩ := Stored.derive_spec hreads.holds d
      have hchild : Reads (h.derive ((new least).run steps).memory d).1 least
          (h.derive ((new least).run steps).memory d).2 ((histories steps)[i] ++ [d]) := by
        refine ⟨hholds, ?_⟩
        rw [hshown, Compact.derived_concat]
        exact congrArg (Compact.derive · d) hreads.shown
      -- The old members read as before, and the new one reads as derived from its parent.
      have hold := ih.imp fun _ _ hr => Reads.keeps hr hkeeps
      exact List.rel_append hold (List.Forall₂.cons hchild List.Forall₂.nil)

theorem handler?_eq (least : Level) {steps : List (Nat × HandlerStep)} {i : Nat} {ds : List HandlerStep}
    (hi : (histories steps)[i]? = some ds) :
    ((new least).run steps).handler? i = some (Compact.derived least ds) := by
  have hreads := run_reads least steps
  obtain ⟨hlt, hget⟩ := List.getElem?_eq_some_iff.1 hi
  have hlt' : i < ((new least).run steps).members.length := hreads.length_eq.symm ▸ hlt
  have hmember := hreads.get hlt' hlt
  rw [List.get_eq_getElem, List.get_eq_getElem, hget] at hmember
  rw [handler?, List.getElem?_eq_getElem hlt', Option.map_some, hmember.shown]

/-- A member keeps its place and its steps. -/
theorem histories_append {steps : List (Nat × HandlerStep)} {i : Nat} {ds : List HandlerStep}
    (hi : (histories steps)[i]? = some ds) (more : List (Nat × HandlerStep)) :
    (histories (steps ++ more))[i]? = some ds := by
  induction more using List.reverseRecOn with
  | nil => rwa [List.append_nil]
  | append_singleton more step ih =>
    rw [← List.append_assoc, histories, List.foldl_append]
    show (match (histories (steps ++ more))[step.1]? with
      | none => histories (steps ++ more)
      | some ds => histories (steps ++ more) ++ [ds ++ [step.2]])[i]? = some ds
    cases (histories (steps ++ more))[step.1]? with
    | none => exact ih
    | some ds' => exact List.getElem?_append_left (List.getElem?_eq_some_iff.1 ih).1 ▸ ih

/-- **A handler is what its own steps made it, and it qualifies by all of its groups.** Whatever is derived later,
    from it or from others, it writes the line in which every attribute is inside the groups that are open in the
    end. This is the line of the paths if nothing that is shown was attached before a group was opened; an attribute
    of which this is not true is shown under another key than that of its path. -/
theorem qualifies_by_all_groups (least : Level) (steps : List (Nat × HandlerStep)) {i : Nat}
    {ds : List HandlerStep} (hi : (histories steps)[i]? = some ds) (hnamed : Named (HandlerStep.groups ds)) :
    ∃ h : Compact, (∀ more, ((new least).run (steps ++ more)).handler? i = some h) ∧
      (∀ (clock : String) (e : Entry),
        h.line clock e = Compact.lineIn (Compact.moved (HandlerStep.groups ds) (HandlerStep.attached ds))
          (HandlerStep.groups ds) clock e ∧
        ((∀ p ∈ HandlerStep.attached ds,
            p.1 = HandlerStep.groups ds ∨ p.2.key = Compact.componentKey ∨ p.2.isEmpty = true) →
          h.line clock e = Compact.lineIn (HandlerStep.attached ds) (HandlerStep.groups ds) clock e)) ∧
      ∀ p ∈ HandlerStep.attached ds,
        (p.2.within (HandlerStep.groups ds)).key = (p.2.within p.1).key ↔ p.1 = HandlerStep.groups ds := by
  refine ⟨Compact.derived least ds, ?_, ?_, ?_⟩
  · intro more
    exact handler?_eq least (histories_append hi more)
  · intro clock e
    have hline := Compact.line_derived least hnamed clock e
    refine ⟨hline, ?_⟩
    intro hlate
    exact hline.trans (Compact.lineIn_moved hlate clock e)
  · intro p hp
    obtain ⟨later, hlater⟩ := HandlerStep.exists_later hp
    rw [List.nil_append] at hlater
    rw [hlater]
    show pathKey (p.1 ++ later) p.2.key = pathKey p.1 p.2.key ↔ p.1 = p.1 ++ later
    rw [pathKey_append_eq_iff, List.self_eq_append_right]

/-- The third handler has a component, a group and an attribute inside it; a sibling opens another group over the
    same memory. -/
theorem qualifies_by_all_groups_beside_a_sibling :
    let web : Attr := ⟨Compact.componentKey, .text (Loose.ofString "web")⟩
    let b : Attr := ⟨"b", .text (Loose.ofString "2")⟩
    let ds : List HandlerStep := [.attach [web], .group "g", .attach [b]]
    let steps : List (Nat × HandlerStep) := [(0, .attach [web]), (1, .group "g"), (2, .attach [b])]
    let e : Entry := { message := "m" }
    (histories steps)[3]? = some ds ∧ Named (HandlerStep.groups ds) ∧
      ∃ h : Compact, ((new Level.info).run (steps ++ [(2, .group "h"), (3, .attach [b])])).handler? 3 = some h ∧
        h.line "12:00:00" e =
          Compact.lineIn (HandlerStep.attached ds) (HandlerStep.groups ds) "12:00:00" e := by
  intro web b ds steps e
  have hi : (histories steps)[3]? = some ds := rfl
  have hnamed : Named (HandlerStep.groups ds) := by
    intro name hname
    rw [List.mem_singleton.1 hname]
    decide
  obtain ⟨h, hhandler, hline, -⟩ := qualifies_by_all_groups Level.info steps hi hnamed
  refine ⟨hi, hnamed, h, hhandler _, (hline "12:00:00" e).2 ?_⟩
  decide

end Family

/-- An attribute that was attached before the group was opened is shown as if it were inside. -/
theorem Compact.early_attribute_is_moved :
    let ds : List HandlerStep := [.attach [⟨"a", .text (Loose.ofString "1")⟩], .group "g"]
    let e : Entry := { message := "m", attrs := [⟨"b", .text (Loose.ofString "2")⟩] }
    (derived Level.info ds).line "00:00:00" e = Loose.ofString "[INFO]  00:00:00 m | g.a=1 g.b=2\n" ∧
      lineIn (HandlerStep.attached ds) (HandlerStep.groups ds) "00:00:00" e =
        Loose.ofString "[INFO]  00:00:00 m | a=1 g.b=2\n" ∧
      (derived Level.info ds).line "00:00:00" e ≠
        lineIn (HandlerStep.attached ds) (HandlerStep.groups ds) "00:00:00" e := by
  decide +kernel

end CallCoupling.Log
