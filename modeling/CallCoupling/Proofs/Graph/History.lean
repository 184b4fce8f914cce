import CallCoupling.Proofs.Graph.Picture

/-!
# A graph reflects the history of its steps

A successful step sees a name: as a caller, or as the target of one call site. `History` is the list of
these sightings, and `History.picture` reads off it, in closed form, everything that a graph can say. The
main fact of this file is that the tables never know more or less than that:

> a step that succeeds turns a graph that shows `h.picture` into one that shows the picture of `h` with one
> more sighting, and a step that fails leaves the graph alone (`Graph.Shows.step`).

`Graph.Shows.run` is the same over any list of steps. What holds of every reachable graph is then a fact
about histories, which are plain lists: counts are counts of sightings, and so on.
-/

set_option autoImplicit false

namespace CallCoupling

/-- One way in which a name comes up. -/
inductive Sighting where
  | caller (name : Name)
  | call (caller callee : Name)
deriving DecidableEq, Repr

/-- The sightings of successful steps, in order. -/
abbrev History := List Sighting

namespace Sighting

/-- The name that is seen. -/
def name : Sighting → Name
  | .caller a => a
  | .call _ b => b

/-- The name, if it is seen as a caller. -/
def caller? : Sighting → Option Name
  | .caller a => some a
  | .call _ _ => none

/-- Caller and callee, if it is a call site that is seen. -/
def call? : Sighting → Option (Name × Name)
  | .caller _ => none
  | .call a b => some (a, b)

end Sighting

namespace History

def names (h : History) : List Name := h.map Sighting.name

def callers (h : History) : List Name := h.filterMap Sighting.caller?

def calls (h : History) : List (Name × Name) := h.filterMap Sighting.call?

/-- A name that was ever seen as a caller is confirmed, however it was seen first. -/
def stateOf (h : History) (a : Name) : Membership :=
  if a ∈ h.callers then .confirmed else if a ∈ h.names then .calleeOnly else .unseen

/-- The number of call sites that target a name. -/
def callsTo (h : History) (a : Name) : Nat := h.calls.countP fun call => call.2 = a

/-- What the tables of a graph with this history say. -/
def picture (h : History) : Picture where
  names := h.names.eraseDups
  state := h.stateOf
  calls := h.callsTo
  isCaller a := a ∈ h.callers
  link a b := (a, b) ∈ h.calls

/-- What steps make sure of: they see no empty name, and only callers call. -/
structure Sound (h : History) : Prop where
  named : ∀ a ∈ h.names, a ≠ []
  called : ∀ call ∈ h.calls, call.1 ∈ h.callers

/-! ## 1. Lists of sightings -/

theorem names_append (h k : History) : names (h ++ k) = names h ++ names k := List.map_append

theorem callers_append (h k : History) : callers (h ++ k) = callers h ++ callers k :=
  List.filterMap_append

theorem calls_append (h k : History) : calls (h ++ k) = calls h ++ calls k := List.filterMap_append

theorem mem_names_of_mem_callers {h : History} {a : Name} (ha : a ∈ h.callers) : a ∈ h.names := by
  obtain ⟨s, hs, hsome⟩ := List.mem_filterMap.mp ha
  cases s with
  | caller b =>
    cases hsome
    exact List.mem_map.mpr ⟨.caller a, hs, rfl⟩
  | call b c => cases hsome

theorem mem_names_of_mem_calls {h : History} {a b : Name} (hab : (a, b) ∈ h.calls) : b ∈ h.names := by
  obtain ⟨s, hs, hsome⟩ := List.mem_filterMap.mp hab
  cases s with
  | caller c => cases hsome
  | call c d =>
    cases hsome
    exact List.mem_map.mpr ⟨.call a b, hs, rfl⟩

/-- A name is seen as a caller or as a target. -/
theorem mem_names_iff {h : History} {a : Name} :
    a ∈ h.names ↔ a ∈ h.callers ∨ ∃ call ∈ h.calls, call.2 = a := by
  constructor
  · intro ha
    obtain ⟨s, hs, rfl⟩ := List.mem_map.1 ha
    cases s with
    | caller b => exact Or.inl (List.mem_filterMap.2 ⟨_, hs, rfl⟩)
    | call b c => exact Or.inr ⟨(b, c), List.mem_filterMap.2 ⟨_, hs, rfl⟩, rfl⟩
  · rintro (ha | ⟨⟨b, c⟩, hcall, rfl⟩)
    · exact mem_names_of_mem_callers ha
    · exact mem_names_of_mem_calls hcall

theorem sound_nil : Sound [] where
  named := by simp [names]
  called := by simp [calls]

theorem Sound.caller {h : History} (hs : Sound h) {a : Name} (ha : a ≠ []) :
    Sound (h ++ [Sighting.caller a]) where
  named := by
    intro b hb
    rw [names_append, List.mem_append] at hb
    rcases hb with hb | hb
    · exact hs.named b hb
    · rw [List.mem_singleton.mp hb]
      exact ha
  called := by
    intro call hcall
    rw [calls_append, List.mem_append] at hcall
    rw [callers_append, List.mem_append]
    rcases hcall with hcall | hcall
    · exact Or.inl (hs.called call hcall)
    · cases hcall

theorem Sound.call {h : History} (hs : Sound h) {a b : Name} (ha : a ∈ h.callers) (hb : b ≠ []) :
    Sound (h ++ [Sighting.call a b]) where
  named := by
    intro c hc
    rw [names_append, List.mem_append] at hc
    rcases hc with hc | hc
    · exact hs.named c hc
    · rw [List.mem_singleton.mp hc]
      exact hb
  called := by
    intro call hcall
    rw [calls_append, List.mem_append] at hcall
    rw [callers_append, List.mem_append]
    rcases hcall with hcall | hcall
    · exact Or.inl (hs.called call hcall)
    · rw [List.mem_singleton.mp hcall]
      exact Or.inl ha

theorem Sound.silent {h : History} (hs : Sound h) {a : Name} (ha : a ∉ h.picture.names) :
    h.picture.Silent a := by
  have hnames : a ∉ h.names := fun hmem => ha (List.mem_eraseDups.mpr hmem)
  have hcallers : a ∉ h.callers := fun hmem => hnames (mem_names_of_mem_callers hmem)
  refine ⟨?_, ?_, hcallers, ?_, ?_⟩
  · show h.stateOf a = .unseen
    rw [stateOf, if_neg hcallers, if_neg hnames]
  · show h.callsTo a = 0
    rw [callsTo, List.countP_eq_zero]
    intro call hcall hto
    have hto' : call.2 = a := by simpa using hto
    exact hnames (hto' ▸ mem_names_of_mem_calls hcall)
  · intro b hlink
    exact hcallers (hs.called (a, b) hlink)
  · intro b hlink
    exact hnames (mem_names_of_mem_calls hlink)

/-! ## 2. One more sighting

Each clause of the picture after one more sighting, said as the write that a step makes. The two `stateOf`
lemmas are where the order of promotion is used: a confirmed name stays confirmed when it is called. -/

theorem names_concat (h : History) (s : Sighting) :
    (names (h ++ [s])).eraseDups = enter h.names.eraseDups s.name := by
  rw [names_append]
  exact eraseDups_concat h.names s.name

/-- Ids are kept: what is seen later takes places after those already given. -/
theorem getElem?_picture_append {h : History} {i : Nat} {a : Name}
    (hi : h.picture.names[i]? = some a) (k : History) :
    (picture (h ++ k)).names[i]? = some a := by
  have hi' : h.names.eraseDups[i]? = some a := hi
  show (names (h ++ k)).eraseDups[i]? = some a
  rw [names_append, List.eraseDups_append,
    List.getElem?_append_left (List.getElem?_eq_some_iff.mp hi').1]
  exact hi'

theorem stateOf_caller (h : History) (a : Name) :
    stateOf (h ++ [Sighting.caller a]) =
      Function.update h.stateOf a ((h.stateOf a).promote .confirmed) := by
  have hcallers : callers (h ++ [Sighting.caller a]) = h.callers ++ [a] := callers_append h _
  have hnames : names (h ++ [Sighting.caller a]) = h.names ++ [a] := names_append h _
  funext x
  by_cases hx : x = a
  · subst hx
    rw [Function.update_self, stateOf, hcallers, if_pos (by simp)]
    cases h.stateOf x <;> rfl
  · rw [Function.update_of_ne hx, stateOf, stateOf, hcallers, hnames]
    simp [hx]

theorem stateOf_call (h : History) (a b : Name) :
    stateOf (h ++ [Sighting.call a b]) =
      Function.update h.stateOf b ((h.stateOf b).promote .calleeOnly) := by
  have hcallers : callers (h ++ [Sighting.call a b]) = h.callers := by
    rw [callers_append]
    exact List.append_nil _
  have hnames : names (h ++ [Sighting.call a b]) = h.names ++ [b] := names_append h _
  funext x
  by_cases hx : x = b
  · subst hx
    rw [Function.update_self, stateOf, stateOf, hcallers, hnames]
    -- Confirmed or seen as a callee before, `x` keeps its state; unseen, it becomes a callee.
    by_cases hcaller : x ∈ h.callers
    · rw [if_pos hcaller, if_pos hcaller]
      rfl
    · rw [if_neg hcaller, if_neg hcaller, if_pos (by simp)]
      by_cases hname : x ∈ h.names
      · rw [if_pos hname]
        rfl
      · rw [if_neg hname]
        rfl
  · rw [Function.update_of_ne hx, stateOf, stateOf, hcallers, hnames]
    simp [hx]

theorem callsTo_call (h : History) (a b : Name) :
    callsTo (h ++ [Sighting.call a b]) = Function.update h.callsTo b (h.callsTo b + 1) := by
  have hcalls : calls (h ++ [Sighting.call a b]) = h.calls ++ [(a, b)] := calls_append h _
  funext x
  by_cases hx : x = b
  · subst hx
    rw [Function.update_self, callsTo, hcalls, List.countP_append]
    simp [callsTo]
  · rw [Function.update_of_ne hx, callsTo, hcalls, List.countP_append]
    simp [callsTo, Ne.symm hx]

theorem picture_caller (h : History) (a : Name) :
    picture (h ++ [Sighting.caller a]) =
      { names := enter h.picture.names a
        state := Function.update h.picture.state a ((h.picture.state a).promote .confirmed)
        calls := h.picture.calls
        isCaller := fun b => b = a ∨ h.picture.isCaller b
        link := h.picture.link } := by
  have hcalls : calls (h ++ [Sighting.caller a]) = h.calls := by
    rw [calls_append]
    exact List.append_nil _
  refine Picture.ext (names_concat h _) (stateOf_caller h a) ?_ ?_ ?_
  · funext x
    show callsTo _ x = callsTo h x
    rw [callsTo, callsTo, hcalls]
  · funext x
    show (x ∈ callers _) = (x = a ∨ x ∈ h.callers)
    rw [callers_append, List.mem_append, or_comm]
    simp [callers, Sighting.caller?]
  · funext x y
    show ((x, y) ∈ calls _) = ((x, y) ∈ h.calls)
    rw [hcalls]

theorem picture_call (h : History) (a b : Name) :
    picture (h ++ [Sighting.call a b]) =
      { names := enter h.picture.names b
        state := Function.update h.picture.state b ((h.picture.state b).promote .calleeOnly)
        calls := Function.update h.picture.calls b (h.picture.calls b + 1)
        isCaller := h.picture.isCaller
        link := fun x y => (x = a ∧ y = b) ∨ h.picture.link x y } := by
  have hcallers : callers (h ++ [Sighting.call a b]) = h.callers := by
    rw [callers_append]
    exact List.append_nil _
  refine Picture.ext (names_concat h _) (stateOf_call h a b) (callsTo_call h a b) ?_ ?_
  · funext x
    show (x ∈ callers _) = (x ∈ h.callers)
    rw [hcallers]
  · funext x y
    show ((x, y) ∈ calls _) = ((x = a ∧ y = b) ∨ (x, y) ∈ h.calls)
    rw [calls_append, List.mem_append, or_comm]
    simp [calls, Sighting.call?]

end History

/-! ## 3. Steps -/

/-- **A caller with a name is always added**, and the graph shows one more sighting. -/
theorem Graph.Shows.addCaller {g : Graph} {h : History} (hg : g.Shows h.picture) (hs : h.Sound)
    {a : Name} (ha : a ≠ []) :
    ∃ g' i, g.addCaller a = (g', .ok i) ∧ g'.names[i]? = some a ∧
      g'.Shows (History.picture (h ++ [Sighting.caller a])) := by
  obtain ⟨hens, hi⟩ := hg.ensure (a := a) hs.silent
  have hopen := (hens.promote hi .confirmed).openLinks hi
  have hstep : g.addCaller a =
      (((g.ensure a).1.promote (g.ensure a).2 .confirmed).openLinks (g.ensure a).2,
        .ok (g.ensure a).2) := by
    unfold Graph.addCaller
    rw [if_neg (by simpa using ha)]
  refine ⟨_, _, hstep, ?_, ?_⟩
  · rw [hopen.names.trans hens.names.symm]
    exact hi
  · rw [History.picture_caller]
    exact hopen

/-- **A call site of a caller with a named target is always added**, and the graph shows one more
    sighting. -/
theorem Graph.Shows.addCallee {g : Graph} {h : History} (hg : g.Shows h.picture) (hs : h.Sound)
    {c : Nat} {a b : Name} (hc : g.names[c]? = some a) (ha : a ∈ h.callers) (hb : b ≠ []) :
    ∃ g' i, g.addCallee c b = (g', .ok i) ∧ g'.names[i]? = some b ∧
      g'.Shows (History.picture (h ++ [Sighting.call a b])) := by
  obtain ⟨hens, hi⟩ := hg.ensure (a := b) hs.silent
  -- The caller's own id survives the new node: it has the name it had.
  have hc' : (g.ensure b).1.names[c]? = some a := by
    rw [hg.names] at hc
    rw [hens.names]
    exact (History.names_concat h (.call a b)) ▸ History.getElem?_picture_append hc [.call a b]
  have hlink := ((hens.promote hi .calleeOnly).countCall hi).link hc' hi ha
  have hstep : g.addCallee c b =
      ((((g.ensure b).1.promote (g.ensure b).2 .calleeOnly).countCall (g.ensure b).2).link c
        (g.ensure b).2, .ok (g.ensure b).2) := by
    obtain ⟨targets, htargets⟩ : ∃ targets, g.links.lookup c = some targets :=
      Option.isSome_iff_exists.mp ((hg.callers c).mpr ⟨a, hc, ha⟩)
    unfold Graph.addCallee
    rw [if_neg (by simpa using hb), Graph.callees?_natCast, htargets]
    rfl
  refine ⟨_, _, hstep, hi, ?_⟩
  rw [History.picture_call]
  exact hlink

/-- Does the step add a call site? -/
def GraphStep.isCallee : GraphStep → Bool
  | .caller _ => false
  | .callee _ _ => true

/-- **A step fails and leaves the graph alone, or succeeds and is seen.** The sighting is of a call site
    exactly if the step is one that adds call sites. -/
theorem Graph.Shows.step {g : Graph} {h : History} (hg : g.Shows h.picture) (hs : h.Sound)
    (s : GraphStep) :
    (∃ e, g.step s = (g, .error e)) ∨
      ∃ g' i x, g.step s = (g', .ok i) ∧ g'.Shows (History.picture (h ++ [x])) ∧
        History.Sound (h ++ [x]) ∧ x.call?.isSome = s.isCallee := by
  cases s with
  | caller a =>
    by_cases ha : a = []
    · exact Or.inl ⟨.emptyCaller, by simp [Graph.step, Graph.addCaller, ha]⟩
    · obtain ⟨g', i, hstep, -, hshows⟩ := hg.addCaller hs ha
      exact Or.inr ⟨g', i, .caller a, hstep, hshows, hs.caller ha, rfl⟩
  | callee caller b =>
    by_cases hb : b = []
    · exact Or.inl ⟨.emptyCallee, by simp [Graph.step, Graph.addCallee, hb]⟩
    · cases hcallees : g.callees? caller with
      | none =>
        refine Or.inl ⟨.unknownCaller caller, ?_⟩
        simp [Graph.step, Graph.addCallee, hb, hcallees]
      | some targets =>
        -- Only an id that is not negative has an entry, and then it is a caller's.
        cases caller with
        | negSucc n => simp at hcallees
        | ofNat c =>
          rw [Int.ofNat_eq_natCast, Graph.callees?_natCast] at hcallees
          obtain ⟨a, hc, ha⟩ := (hg.callers c).mp (by rw [hcallees]; rfl)
          obtain ⟨g', i, hstep, -, hshows⟩ := hg.addCallee hs hc ha hb
          exact Or.inr ⟨g', i, .call a b, hstep, hshows, hs.call ha hb, rfl⟩

/-- The number of calls of `addCallee` in a run that were answered with an id. -/
def Graph.callsMade (steps : List GraphStep) (answers : List (Except GraphError Nat)) : Nat :=
  (steps.zip answers).countP fun (s, answer) => s.isCallee && answer.isOk

/-- **A run is its successful steps.** Failed ones leave no trace, wherever they stand. -/
theorem Graph.Shows.run {g : Graph} {h : History} (hg : g.Shows h.picture) (hs : h.Sound)
    (steps : List GraphStep) :
    ∃ more : History, (g.run steps).1.Shows (History.picture (h ++ more)) ∧
      History.Sound (h ++ more) ∧
      more.calls.length = Graph.callsMade steps (g.run steps).2 := by
  induction steps generalizing g h with
  | nil => exact ⟨[], by rw [List.append_nil]; exact hg, by rw [List.append_nil]; exact hs, rfl⟩
  | cons s steps ih =>
    rcases hg.step hs s with ⟨e, hstep⟩ | ⟨g', i, x, hstep, hg', hs', hx⟩
    · obtain ⟨more, hshows, hsound, hcalls⟩ := ih hg hs
      refine ⟨more, ?_, hsound, ?_⟩
      · simpa only [Graph.run, hstep] using hshows
      · simp only [Graph.run, hstep, hcalls, Graph.callsMade, List.zip_cons_cons, List.countP_cons]
        simp [Except.isOk, Except.toBool]
    · obtain ⟨more, hshows, hsound, hcalls⟩ := ih hg' hs'
      rw [List.append_assoc, List.singleton_append] at hshows hsound
      refine ⟨x :: more, ?_, hsound, ?_⟩
      · simpa only [Graph.run, hstep] using hshows
      · have hlen : (History.calls (x :: more)).length =
            more.calls.length + if s.isCallee then 1 else 0 := by
          rw [← hx, History.calls, List.filterMap_cons]
          cases x <;> rfl
        rw [hlen, hcalls]
        simp [Graph.run, hstep, Graph.callsMade, List.countP_cons, Except.isOk, Except.toBool]

end CallCoupling
