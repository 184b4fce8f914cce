import CallCoupling.Proofs.Agreement

/-!
# Several clients build one graph

Clients share a graph under construction. Each has parents to add, one after the other, and adds the children
of a parent under the id that it was given for it; a call is one step, and between two calls of a client the
others may make any number of theirs. Which ids are given depends on who comes first, so two orders of the same
calls leave different tables. `Crew.alike_of_runs` says that ids are all that differs.

The steps themselves do not commute, not even up to a renaming that could be written down for two of them. What
is the same in all orders is what there is to see. A client still has some sightings to make (`Client.left`), and

> what the graph has seen and what its clients have left is, together, always the same up to order

(`Crew.Follows.step`, and `Crew.Follows.run` for a whole run). Where nothing is left, the graph has seen what there
was to see, and what a graph says of a name does not depend on the order of its history
(`Graph.Shows.alikeByName`). Another order of the methods of a class call graph is a case of the same fact.

That an id stays good while others work is `Client.Placed`: the id that a client holds is the id of its parent's
name, and that does not change when the history goes on.
-/

set_option autoImplicit false

namespace CallCoupling

/-- A parent with its children, by name. -/
structure Visit where
  parent : Name
  children : List Name
deriving DecidableEq, Repr

/-- A client: the parent that it is at, with the id that it was given and the children still to be added, and
    the parents after that. -/
structure Client where
  parent : Name := []
  id : Nat := 0
  children : List Name := []
  visits : List Visit := []
deriving DecidableEq, Repr

/-- The next call of a client, if it has one to make. -/
def Client.call? (c : Client) : Option GraphStep :=
  match c.children, c.visits with
  | b :: _, _ => some (.callee c.id b)
  | [], v :: _ => some (.caller v.parent)
  | [], [] => none

/-- A client after the answer to its call. One whose call fails gives up. -/
def Client.resume (c : Client) : Except GraphError Nat → Client
  | .error _ => {}
  | .ok i =>
    match c.children, c.visits with
    | _ :: bs, _ => { c with children := bs }
    | [], v :: vs => { parent := v.parent, id := i, children := v.children, visits := vs }
    | [], [] => c

/-- A graph and the clients that build it. -/
structure Crew where
  graph : Graph := {}
  clients : List Client
deriving DecidableEq, Repr

namespace Crew

/-- The crew after the next call of the client at a place, and the answer of the call; `none` if there is no
    such client or it has no call to make. -/
def step (w : Crew) (place : Nat) : Option (Crew × Except GraphError Nat) :=
  (w.clients[place]?).bind fun c => c.call?.map fun s =>
    let (graph, answer) := w.graph.step s
    ({ graph, clients := w.clients.set place (c.resume answer) }, answer)

/-- A run is given by the places of the clients that call, in order. -/
def run (w : Crew) : List Nat → Option (Crew × List (Except GraphError Nat))
  | [] => some (w, [])
  | place :: schedule =>
    (w.step place).bind fun (w, answer) =>
      (w.run schedule).map fun (w, answers) => (w, answer :: answers)

/-- No client has a call to make. -/
def Done (w : Crew) : Prop := ∀ c ∈ w.clients, c.call? = none

/-- A crew that starts with an empty graph, each client with its own parents. -/
def start (jobs : List (List Visit)) : Crew := { clients := jobs.map fun visits => { visits } }

end Crew

/-- **Two graphs say the same of every name.** They have the same names, each in the same state, with the same
    number of call sites and the same links. -/
structure Graph.AlikeByName (g g' : Graph) : Prop where
  names : g.names.Perm g'.names
  state : ∀ a, (g.id? a).map (fun (i : Nat) => g.stateOf i) =
    (g'.id? a).map fun (i : Nat) => g'.stateOf i
  multiplicity : ∀ a, (g.id? a).map (fun (i : Nat) => g.multiplicityOf i) =
    (g'.id? a).map fun (i : Nat) => g'.multiplicityOf i
  links : ∀ a b, g.Links a b ↔ g'.Links a b

/-! ## 1. The order of a history -/

/-- What is read at the id of a name is what the picture says of the name, if it has a node. -/
theorem Graph.Shows.map_id? {g : Graph} {p : Picture} (hg : g.Shows p) {α : Type} {f : Nat → α}
    {k : Name → α} (hf : ∀ i a, g.names[i]? = some a → f i = k a) (a : Name) :
    (g.id? a).map f = if a ∈ g.names then some (k a) else none := by
  cases hi : g.id? a with
  | none => rw [if_neg (hg.indexed.lookup_eq_none.1 hi), Option.map_none]
  | some i =>
    have hget : g.names[i]? = some a := hg.id?_eq_some.1 hi
    rw [if_pos (List.mem_of_getElem? hget), Option.map_some, hf i a hget]

theorem History.stateOf_perm {h h' : History} (hperm : h.Perm h') (a : Name) :
    h.stateOf a = h'.stateOf a := by
  have hcallers : a ∈ h.callers ↔ a ∈ h'.callers := (hperm.filterMap Sighting.caller?).mem_iff
  have hnames : a ∈ h.names ↔ a ∈ h'.names := (hperm.map Sighting.name).mem_iff
  simp only [History.stateOf, hcallers, hnames]

/-- **A graph says of names what its history holds, in whatever order.** -/
theorem Graph.Shows.alikeByName {g g' : Graph} {h h' : History} (hg : g.Shows h.picture) (hs : h.Sound)
    (hg' : g'.Shows h'.picture) (hs' : h'.Sound) (hperm : h.Perm h') : g.AlikeByName g' := by
  have hnames : ∀ a, a ∈ g.names ↔ a ∈ g'.names := by
    intro a
    rw [hg.names, hg'.names]
    show a ∈ h.names.eraseDups ↔ a ∈ h'.names.eraseDups
    rw [List.mem_eraseDups, List.mem_eraseDups]
    exact (hperm.map Sighting.name).mem_iff
  have hcalls : h.calls.Perm h'.calls := hperm.filterMap Sighting.call?
  refine ⟨(List.perm_ext_iff_of_nodup hg.indexed.nodup hg'.indexed.nodup).2 hnames, ?_, ?_, ?_⟩
  · intro a
    rw [hg.map_id? (fun i b hi => hg.stateOf hi), hg'.map_id? (fun i b hi => hg'.stateOf hi)]
    simp only [hnames a]
    exact if_congr Iff.rfl (congrArg some (History.stateOf_perm hperm a)) rfl
  · intro a
    rw [hg.map_id? (fun i b hi => hg.multiplicityOf hi), hg'.map_id? (fun i b hi => hg'.multiplicityOf hi)]
    simp only [hnames a]
    exact if_congr Iff.rfl (congrArg some (hcalls.countP_eq _)) rfl
  · intro a b
    rw [hg.links_iff hs, hg'.links_iff hs', hcalls.mem_iff]

/-! ## 2. Another order of the parents -/

section

variable {P C ε : Type} (children : P → List C) (parentName : P → Except ε Name)
  (childName : C → Except ε Name)

theorem places_perm {parents parents' : List P} (hperm : parents.Perm parents') :
    (places children parents).Perm (places children parents') := hperm.flatMap_right _

/-- Parents in another order have the same graph but for its ids, and there is one in both orders or in none. -/
theorem Graph.build_perm {parents parents' : List P} (hperm : parents.Perm parents') {g : Graph}
    (hg : Graph.build parents children parentName childName = .ok g) :
    ∃ g', Graph.build parents' children parentName childName = .ok g' ∧ g.AlikeByName g' := by
  rcases Graph.build_cases children parentName childName parents with
    ⟨e, -, herr⟩ | ⟨hnamed, g₀, hok, hshows, hsound⟩
  · rw [herr] at hg
    cases hg
  · rw [hg] at hok
    cases hok
    rcases Graph.build_cases children parentName childName parents' with
      ⟨e, hfirst, -⟩ | ⟨-, g', hok', hshows', hsound'⟩
    · -- A place with a defect would have one among the first parents too.
      have hnone : (places children parents').findSome? (Place.defect? parentName childName) = none := by
        rw [findSome?_defect_eq_none]
        intro place hplace
        exact hnamed place ((places_perm children hperm).mem_iff.2 hplace)
      rw [hnone] at hfirst
      cases hfirst
    · refine ⟨g', hok', hshows.alikeByName hsound hshows' hsound' ?_⟩
      exact (places_perm children hperm).filterMap _

end

/-! ## 3. What clients have left -/

def Visit.sightings (v : Visit) : History := .caller v.parent :: v.children.map (.call v.parent)

/-- What the graph is going to see of a client. -/
def Client.left (c : Client) : History :=
  c.children.map (.call c.parent) ++ c.visits.flatMap Visit.sightings

def Crew.left (w : Crew) : History := w.clients.flatMap Client.left

/-- The id that a client holds is that of the parent it is at, and that parent is a caller. -/
def Client.Placed (h : History) (c : Client) : Prop :=
  c.children ≠ [] → h.picture.names[c.id]? = some c.parent ∧ c.parent ∈ h.callers

/-- **The graph of a crew shows a history**, its clients hold good ids, and no name to come is empty. -/
structure Crew.Follows (w : Crew) (h : History) : Prop where
  shows : w.graph.Shows h.picture
  sound : h.Sound
  placed : ∀ c ∈ w.clients, c.Placed h
  named : ∀ x ∈ w.left, x.name ≠ []

theorem Client.Placed.append {h : History} {c : Client} (hc : c.Placed h) (k : History) :
    c.Placed (h ++ k) := by
  intro hchildren
  obtain ⟨hid, hcaller⟩ := hc hchildren
  refine ⟨History.getElem?_picture_append hid k, ?_⟩
  rw [History.callers_append]
  exact List.mem_append_left _ hcaller

theorem Client.call?_eq_none_iff {c : Client} : c.call? = none ↔ c.left = [] := by
  obtain ⟨parent, id, children, visits⟩ := c
  cases children with
  | cons b bs => simp [Client.call?, Client.left]
  | nil =>
    cases visits with
    | nil => simp [Client.call?, Client.left]
    | cons v vs => simp [Client.call?, Client.left, Visit.sightings]

theorem Crew.done_iff {w : Crew} : w.Done ↔ w.left = [] := by
  rw [Crew.left, List.flatMap_eq_nil_iff]
  exact forall₂_congr fun _ _ => Client.call?_eq_none_iff

/-- **The next call of a client succeeds**, and the graph sees the first of what the client has left. -/
theorem Client.step {g : Graph} {h : History} (hg : g.Shows h.picture) (hs : h.Sound) {c : Client}
    (hc : c.Placed h) (hnamed : ∀ x ∈ c.left, x.name ≠ []) {s : GraphStep} (hcall : c.call? = some s) :
    ∃ g' i x, g.step s = (g', .ok i) ∧ g'.Shows (History.picture (h ++ [x])) ∧
      History.Sound (h ++ [x]) ∧ c.left = x :: (c.resume (.ok i)).left ∧
      (c.resume (.ok i)).Placed (h ++ [x]) := by
  obtain ⟨parent, id, children, visits⟩ := c
  cases children with
  | cons b bs =>
    cases hcall
    obtain ⟨hid, hcaller⟩ := hc (List.cons_ne_nil b bs)
    have hb : b ≠ [] := hnamed (.call parent b) List.mem_cons_self
    obtain ⟨g', i, hstep, -, hg'⟩ := hg.addCallee hs (hg.names ▸ hid) hcaller hb
    have hplaced : Client.Placed h { parent, id, children := bs, visits } := fun _ => ⟨hid, hcaller⟩
    exact ⟨g', i, .call parent b, hstep, hg', hs.call hcaller hb, rfl, hplaced.append _⟩
  | nil =>
    cases visits with
    | nil => cases hcall
    | cons v vs =>
      cases hcall
      have hv : v.parent ≠ [] := hnamed (.caller v.parent) List.mem_cons_self
      obtain ⟨g', i, hstep, hi, hg'⟩ := hg.addCaller hs hv
      refine ⟨g', i, .caller v.parent, hstep, hg', hs.caller hv, rfl, fun _ => ⟨hg'.names ▸ hi, ?_⟩⟩
      rw [History.callers_append]
      exact List.mem_append_right _ List.mem_cons_self

/-! ## 4. Steps and runs of a crew -/

/-- **A step of any client succeeds, and what it makes seen is taken from what is left.** -/
theorem Crew.Follows.step {w w' : Crew} {h : History} (hw : w.Follows h) {place : Nat}
    {answer : Except GraphError Nat} (hstep : w.step place = some (w', answer)) :
    ∃ i x, answer = .ok i ∧ w'.Follows (h ++ [x]) ∧ (x :: w'.left).Perm w.left := by
  obtain ⟨c, hplace, hcalls⟩ := Option.bind_eq_some_iff.1 hstep
  obtain ⟨s, hcall, heq⟩ := Option.map_eq_some_iff.1 hcalls
  have hmem : c ∈ w.clients := List.mem_of_getElem? hplace
  have hleft : ∀ x ∈ c.left, x ∈ w.left := fun x hx => List.mem_flatMap.2 ⟨c, hmem, hx⟩
  obtain ⟨g', i, x, hgraph, hshows, hsound, hnext, hplaced⟩ :=
    Client.step hw.shows hw.sound (hw.placed c hmem) (fun x hx => hw.named x (hleft x hx)) hcall
  rw [hgraph] at heq
  cases heq
  -- The client stands between those before and those after it, whose work is as it was.
  obtain ⟨hlt, hget⟩ := List.getElem?_eq_some_iff.1 hplace
  have hclients : w.clients = w.clients.take place ++ c :: w.clients.drop (place + 1) := by
    rw [← hget, List.getElem_cons_drop, List.take_append_drop]
  have hset : w.clients.set place (c.resume (.ok i)) =
      w.clients.take place ++ c.resume (.ok i) :: w.clients.drop (place + 1) := by
    rw [List.set_eq_take_append_cons_drop, if_pos hlt]
  have hperm : (x :: (w.clients.set place (c.resume (.ok i))).flatMap Client.left).Perm w.left := by
    rw [Crew.left, hset, hclients]
    simp only [List.flatMap_append, List.flatMap_cons, hnext, List.cons_append]
    rw [← hclients]
    exact List.perm_middle.symm
  refine ⟨i, x, rfl, ⟨hshows, hsound, ?_, ?_⟩, hperm⟩
  · intro c' hc'
    rcases List.mem_or_eq_of_mem_set hc' with hold | rfl
    · exact (hw.placed c' hold).append [x]
    · exact hplaced
  · intro y hy
    exact hw.named y (hperm.mem_iff.1 (List.mem_cons_of_mem x hy))

/-- **All steps of a run succeed, and what is seen in it is what is no longer left.** -/
theorem Crew.Follows.run {w w' : Crew} {h : History} (hw : w.Follows h) {schedule : List Nat}
    {answers : List (Except GraphError Nat)} (hrun : w.run schedule = some (w', answers)) :
    ∃ more : History, (∀ answer ∈ answers, ∃ i, answer = .ok i) ∧ w'.Follows (h ++ more) ∧
      (more ++ w'.left).Perm w.left ∧ more.length = schedule.length := by
  induction schedule generalizing w h answers with
  | nil =>
    cases hrun
    exact ⟨[], nofun, by rw [List.append_nil]; exact hw, List.Perm.refl _, rfl⟩
  | cons place schedule ih =>
    obtain ⟨⟨w₁, answer⟩, hstep, hrest⟩ := Option.bind_eq_some_iff.1 hrun
    obtain ⟨⟨w₂, answers₂⟩, hrun₂, heq⟩ := Option.map_eq_some_iff.1 hrest
    cases heq
    obtain ⟨i, x, rfl, hw₁, hfirst⟩ := hw.step hstep
    obtain ⟨more, hok, hw₂, hmore, hlength⟩ := ih hw₁ hrun₂
    refine ⟨x :: more, ?_, ?_, (hmore.cons x).trans hfirst, congrArg (· + 1) hlength⟩
    · intro answer hanswer
      rcases List.mem_cons.1 hanswer with rfl | hanswer
      · exact ⟨i, rfl⟩
      · exact hok answer hanswer
    · rw [List.append_assoc, List.singleton_append] at hw₂
      exact hw₂

theorem Crew.left_start (jobs : List (List Visit)) :
    (Crew.start jobs).left = jobs.flatten.flatMap Visit.sightings := by
  rw [Crew.left, Crew.start, List.flatMap_map, List.flatten_eq_flatMap, List.flatMap_assoc]
  rfl

theorem Crew.length_left_start (jobs : List (List Visit)) :
    (Crew.start jobs).left.length = (jobs.flatten.map fun v => v.children.length + 1).sum := by
  rw [Crew.left_start, List.length_flatMap]
  refine congrArg List.sum (List.map_congr_left fun v _ => ?_)
  rw [Visit.sightings, List.length_cons, List.length_map]

theorem Crew.follows_start {jobs : List (List Visit)}
    (hnamed : ∀ visits ∈ jobs, ∀ v ∈ visits, v.parent ≠ [] ∧ ∀ b ∈ v.children, b ≠ []) :
    (Crew.start jobs).Follows [] where
  shows := Graph.shows_empty rfl
  sound := History.sound_nil
  placed := by
    intro c hc hchildren
    obtain ⟨visits, -, rfl⟩ := List.mem_map.1 hc
    exact absurd rfl hchildren
  named := by
    intro x hx
    rw [Crew.left_start] at hx
    obtain ⟨v, hv, hx⟩ := List.mem_flatMap.1 hx
    obtain ⟨visits, hvisits, hv⟩ := List.mem_flatten.1 hv
    obtain ⟨hparent, hchildren⟩ := hnamed visits hvisits v hv
    rcases List.mem_cons.1 hx with rfl | hx
    · exact hparent
    · obtain ⟨b, hb, rfl⟩ := List.mem_map.1 hx
      exact hchildren b hb

/-! ## 5. All orders agree -/

/-- **Concurrent use of one graph changes nothing but ids.** Where no name is empty, every call of every client
    succeeds, in every order of the calls; a run is complete exactly if it has a call for each parent and child;
    and two complete runs leave graphs that say the same of every name. In particular the class call graphs of
    methods in two orders do. -/
theorem Crew.alike_of_runs (jobs : List (List Visit))
    (hnamed : ∀ visits ∈ jobs, ∀ v ∈ visits, v.parent ≠ [] ∧ ∀ b ∈ v.children, b ≠ []) :
    (∀ schedule crew answers, (Crew.start jobs).run schedule = some (crew, answers) →
      (∀ answer ∈ answers, ∃ i, answer = .ok i) ∧
        (crew.Done ↔ schedule.length = (jobs.flatten.map fun v => v.children.length + 1).sum)) ∧
    (∀ schedule schedule' crew crew' answers answers',
      (Crew.start jobs).run schedule = some (crew, answers) → crew.Done →
      (Crew.start jobs).run schedule' = some (crew', answers') → crew'.Done →
        crew.graph.AlikeByName crew'.graph) ∧
    ∀ (methods methods' : List (Option Method)) (chain : Chain), methods.Perm methods' →
      ∀ g, Graph.ofMethods methods chain = .ok g →
        ∃ g', Graph.ofMethods methods' chain = .ok g' ∧ g.AlikeByName g' := by
  have hstart := Crew.follows_start hnamed
  refine ⟨?_, ?_, fun methods methods' chain hperm g hg => Graph.build_perm _ _ _ hperm hg⟩
  · intro schedule crew answers hrun
    obtain ⟨more, hok, -, hperm, hlength⟩ := hstart.run hrun
    refine ⟨hok, ?_⟩
    have hsum := hperm.length_eq
    rw [List.length_append, hlength, Crew.length_left_start] at hsum
    rw [Crew.done_iff, ← List.length_eq_zero_iff]
    omega
  · intro schedule schedule' crew crew' answers answers' hrun hdone hrun' hdone'
    obtain ⟨more, -, hcrew, hperm, -⟩ := hstart.run hrun
    obtain ⟨more', -, hcrew', hperm', -⟩ := hstart.run hrun'
    -- Nothing is left, so each graph has seen all that there was to see.
    rw [Crew.done_iff.1 hdone, List.append_nil] at hperm
    rw [Crew.done_iff.1 hdone', List.append_nil] at hperm'
    rw [List.nil_append] at hcrew hcrew'
    exact hcrew.shows.alikeByName hcrew.sound hcrew'.shows hcrew'.sound (hperm.trans hperm'.symm)

/-- One client has a parent `A` that calls `B` twice, another a parent `B` that calls `A` and itself. One after the
    other, `A` has the first id; when the second client comes first and the calls are mixed, `B` has it. -/
theorem Crew.alike_of_mixed_runs :
    let a : Name := [.char 'A']
    let b : Name := [.char 'B']
    let crew := Crew.start [[⟨a, [b, b]⟩], [⟨b, [a, b]⟩]]
    ∃ w w' answers answers', crew.run [0, 0, 0, 1, 1, 1] = some (w, answers) ∧
      crew.run [1, 0, 1, 0, 1, 0] = some (w', answers') ∧
      w.graph.names = [a, b] ∧ w'.graph.names = [b, a] ∧ w.graph.AlikeByName w'.graph ∧
      (∀ answer ∈ answers', ∃ i, answer = .ok i) := by
  intro a b crew
  obtain ⟨hruns, halike, -⟩ := Crew.alike_of_runs [[⟨a, [b, b]⟩], [⟨b, [a, b]⟩]] (by decide)
  obtain ⟨w, answers, hrun⟩ : ∃ w answers, crew.run [0, 0, 0, 1, 1, 1] = some (w, answers) := ⟨_, _, rfl⟩
  obtain ⟨w', answers', hrun'⟩ : ∃ w answers, crew.run [1, 0, 1, 0, 1, 0] = some (w, answers) :=
    ⟨_, _, rfl⟩
  obtain ⟨-, hdone⟩ := hruns _ w answers hrun
  obtain ⟨hok, hdone'⟩ := hruns _ w' answers' hrun'
  have hnames : (crew.run [0, 0, 0, 1, 1, 1]).map (·.1.graph.names) = some [a, b] := rfl
  have hnames' : (crew.run [1, 0, 1, 0, 1, 0]).map (·.1.graph.names) = some [b, a] := rfl
  rw [hrun] at hnames
  rw [hrun'] at hnames'
  exact ⟨w, w', answers, answers', hrun, hrun', Option.some.inj hnames, Option.some.inj hnames',
    halike _ _ w w' answers answers' hrun (hdone.2 rfl) hrun' (hdone'.2 rfl), hok⟩

end CallCoupling
