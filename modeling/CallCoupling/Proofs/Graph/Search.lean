import CallCoupling.Graph.Search
import Mathlib.Data.Nat.Find
import Mathlib.Order.Bounds.Basic

/-!
# Breadth-first search labels with least distances

What a search looks for is said without it: `Reaches next starts n v` is a way of `n` steps from one of the starts
to `v`, and `AtDistance next starts v d` says that `d` is the least length of such a way.

That labels are lengths of ways is kept by every visit (`Search.Sound.ways`). That no way is shorter is *not*
proved on the way, only at the end:

> When the queue is empty, every neighbour of a place labelled `d` is labelled with `d + 1` at most. So along any
> way the labels grow by one at most, and the label of its last place is no more than its length.

What has to be carried along for this is that a neighbour which is found labelled already does not have too large
a label. It is the order of the queue that grants it (`Search.Layered`): first the places labelled `d`, then those
labelled `d + 1`, and no label anywhere is larger than that.
-/

set_option autoImplicit false

namespace CallCoupling

/-! ## 1. Ways and distances -/

/-- There is a way of `n` steps from one of the starts to a place. -/
inductive Reaches (next : Nat → Nat → Prop) (starts : List Nat) : Nat → Nat → Prop
  | start {v : Nat} : v ∈ starts → Reaches next starts 0 v
  | step {n u v : Nat} : Reaches next starts n u → next u v → Reaches next starts (n + 1) v

/-- **The shortest way from a start to the place has `d` steps.** -/
def AtDistance (next : Nat → Nat → Prop) (starts : List Nat) (v d : Nat) : Prop :=
  IsLeast {n | Reaches next starts n v} d

section Ways

variable {next next' : Nat → Nat → Prop} {starts starts' : List Nat} {n u v d e : Nat}

theorem Reaches.mono (hsub : ∀ u v, next u v → next' u v) (hstarts : ∀ v ∈ starts, v ∈ starts')
    (h : Reaches next starts n v) : Reaches next' starts' n v := by
  induction h with
  | start hv => exact .start (hstarts _ hv)
  | step _ hnext ih => exact .step ih (hsub _ _ hnext)

/-- Steps that stay where they are can be left out of a way. -/
theorem Reaches.shorten (hloops : ∀ u v, next u v → u = v ∨ next' u v) (h : Reaches next starts n v) :
    ∃ m ≤ n, Reaches next' starts m v := by
  induction h with
  | start hv => exact ⟨0, le_rfl, .start hv⟩
  | step _ hnext ih =>
    obtain ⟨m, hm, hway⟩ := ih
    rcases hloops _ _ hnext with rfl | hnext'
    · exact ⟨m, Nat.le_succ_of_le hm, hway⟩
    · exact ⟨m + 1, Nat.succ_le_succ hm, .step hway hnext'⟩

theorem AtDistance.unique (h : AtDistance next starts v d) (h' : AtDistance next starts v e) : d = e :=
  IsLeast.unique h h'

theorem atDistance_start (hv : v ∈ starts) : AtDistance next starts v 0 :=
  ⟨.start hv, fun _ _ => Nat.zero_le _⟩

theorem Reaches.exists_atDistance (h : Reaches next starts n v) : ∃ d, AtDistance next starts v d := by
  classical
  have hsome : ∃ n, Reaches next starts n v := ⟨n, h⟩
  exact ⟨Nat.find hsome, Nat.find_spec hsome, fun _ hm => Nat.find_min' hsome hm⟩

/-- Neither loops nor repeated starts matter to distances. -/
theorem atDistance_congr (hsub : ∀ u v, next' u v → next u v)
    (hloops : ∀ u v, next u v → u = v ∨ next' u v) (hstarts : ∀ v, v ∈ starts' ↔ v ∈ starts) :
    AtDistance next' starts' v d ↔ AtDistance next starts v d := by
  have hdown : ∀ n, Reaches next starts n v → ∃ m ≤ n, Reaches next' starts' m v := by
    intro n h
    obtain ⟨m, hm, hway⟩ := h.shorten hloops
    exact ⟨m, hm, hway.mono (fun _ _ => id) fun v hv => (hstarts v).2 hv⟩
  have hup : ∀ n, Reaches next' starts' n v → Reaches next starts n v := fun n h =>
    h.mono hsub fun v hv => (hstarts v).1 hv
  constructor
  · rintro ⟨hway, hleast⟩
    refine ⟨hup d hway, fun n hn => ?_⟩
    obtain ⟨m, hm, hway'⟩ := hdown n hn
    exact (hleast hway').trans hm
  · rintro ⟨hway, hleast⟩
    obtain ⟨m, hm, hway'⟩ := hdown d hway
    have hmd : m = d := le_antisymm hm (hleast (hup m hway'))
    exact ⟨hmd ▸ hway', fun n hn => hleast (hup n hn)⟩

/-- The last step of a shortest way comes from a place that is one step nearer. -/
theorem AtDistance.exists_nearer (h : AtDistance next starts v (d + 1)) :
    ∃ u, AtDistance next starts u d ∧ next u v := by
  obtain ⟨hway, hleast⟩ := h
  cases hway with
  | step hu hnext =>
    refine ⟨_, ⟨hu, fun n hn => ?_⟩, hnext⟩
    exact Nat.le_of_succ_le_succ (hleast (Reaches.step hn hnext))

/-- **Cutting far places away shortens and lengthens no way to a near one**: if `next'` has all steps of `next` that
    lead one step further out and stay `near`, shortest ways to near places can be walked in it. -/
theorem AtDistance.cut (near : Nat → Prop) (hnear : ∀ d, near (d + 1) → near d)
    (hsub : ∀ u v, next' u v → next u v)
    (hkeep : ∀ u v d, AtDistance next starts u d → AtDistance next starts v (d + 1) → near (d + 1) →
      next u v → next' u v)
    (hd : near d) (h : AtDistance next starts v d) : AtDistance next' starts v d := by
  refine ⟨?_, fun n hn => h.2 (Reaches.mono hsub (fun _ => id) hn)⟩
  induction d generalizing v with
  | zero =>
    obtain ⟨hway, -⟩ := h
    cases hway with
    | start hv => exact .start hv
  | succ d ih =>
    obtain ⟨u, hu, hnext⟩ := h.exists_nearer
    exact Reaches.step (ih (hnear d hd) hu) (hkeep u v d hu h hd hnext)

end Ways

/-! ## 2. Reaching places -/

namespace Search

theorem label_eq_some {s : Search} {v d : Nat} : s.label v = some d ↔ s.labels[v]? = some (some d) := by
  unfold label
  cases s.labels[v]? <;> simp

theorem label_eq_none {s : Search} {v : Nat} (hv : v < s.labels.length) :
    s.label v = none ↔ s.labels[v]? = some none := by
  unfold label
  rw [List.getElem?_eq_getElem hv]
  simp

/-- Reaching a place labels it if it has no label, and changes no other label. -/
theorem label_reach (d : Nat) (s : Search) (v w : Nat) :
    (s.reach d v).label w = if w = v ∧ s.labels[v]? = some none then some d else s.label w := by
  unfold reach
  split
  · rename_i hv
    obtain ⟨hlt, hnone⟩ := List.getElem?_eq_some_iff.1 hv
    by_cases hw : w = v
    · subst hw
      simp [label, hlt, hnone]
    · simp [label, hw, List.getElem?_set_ne (Ne.symm hw)]
  · rename_i hv
    rw [if_neg fun h => hv h.2]

theorem length_reach (d : Nat) (s : Search) (v : Nat) : (s.reach d v).labels.length = s.labels.length := by
  unfold reach
  split
  · exact List.length_set
  · rfl

/-- **What reaching some places with a label does.** Labels are kept; the new ones are on some of these places, which
    are queued behind the others; and none of these places is left without a label. -/
structure Reached (d : Nat) (vs : List Nat) (s s' : Search) : Prop where
  length : s'.labels.length = s.labels.length
  kept : ∀ w e, s.label w = some e → s'.label w = some e
  fresh : ∀ w e, s'.label w = some e → s.label w = some e ∨ (e = d ∧ w ∈ vs ∧ w ∈ s'.queue)
  queue : ∃ new, s'.queue = s.queue ++ new ∧ ∀ w ∈ new, s'.label w = some d
  seen : ∀ v ∈ vs, v < s.labels.length → ∃ e, s'.label v = some e

theorem reached_nil (d : Nat) (s : Search) : Reached d [] s s where
  length := rfl
  kept _ _ := id
  fresh _ _ := Or.inl
  queue := ⟨[], (List.append_nil _).symm, nofun⟩
  seen := nofun

theorem Reached.cons {d v : Nat} {vs : List Nat} {s s' : Search} (h : Reached d vs (s.reach d v) s') :
    Reached d (v :: vs) s s' where
  length := h.length.trans (length_reach d s v)
  kept w e hw := by
    refine h.kept w e ?_
    rw [label_reach, if_neg, hw]
    rintro ⟨rfl, hnone⟩
    rw [label_eq_some, hnone] at hw
    cases hw
  fresh w e hw := by
    obtain ⟨new, hqueue, -⟩ := h.queue
    rcases h.fresh w e hw with hold | ⟨he, hmem, hq⟩
    · rw [label_reach] at hold
      split at hold
      · rename_i hnew
        obtain ⟨rfl, hnone⟩ := hnew
        refine Or.inr ⟨(Option.some.inj hold).symm, List.mem_cons_self, ?_⟩
        rw [hqueue, reach, if_pos hnone]
        simp
      · exact Or.inl hold
    · exact Or.inr ⟨he, List.mem_cons_of_mem v hmem, hq⟩
  queue := by
    obtain ⟨new, hqueue, hnew⟩ := h.queue
    by_cases hnone : s.labels[v]? = some none
    · refine ⟨v :: new, ?_, ?_⟩
      · rw [hqueue, reach, if_pos hnone, List.append_assoc]
        rfl
      · intro w hw
        rcases List.mem_cons.1 hw with rfl | hw
        · exact h.kept w d (by rw [label_reach, if_pos ⟨rfl, hnone⟩])
        · exact hnew w hw
    · refine ⟨new, ?_, hnew⟩
      rw [hqueue, reach, if_neg hnone]
  seen w hw hlt := by
    rcases List.mem_cons.1 hw with rfl | hw
    · cases hold : s.label w with
      | none =>
        exact ⟨d, h.kept w d (by rw [label_reach, if_pos ⟨rfl, (label_eq_none hlt).1 hold⟩])⟩
      | some e =>
        refine ⟨e, h.kept w e ?_⟩
        rw [label_reach, if_neg, hold]
        rintro ⟨-, hnone⟩
        rw [label_eq_some, hnone] at hold
        cases hold
    · exact h.seen w hw (length_reach d s v ▸ hlt)

theorem reached_foldl (d : Nat) (vs : List Nat) (s : Search) : Reached d vs s (vs.foldl (reach d) s) := by
  induction vs generalizing s with
  | nil => exact reached_nil d s
  | cons v vs ih => exact (ih (s.reach d v)).cons

/-! ## 3. Visits -/

/-- **The queue is in layers**: places labelled `d`, then places labelled one more, which is the greatest label. -/
structure Layered (d : Nat) (s : Search) : Prop where
  queue : ∃ now later, s.queue = now ++ later ∧ (∀ u ∈ now, s.label u = some d) ∧
    ∀ u ∈ later, s.label u = some (d + 1)
  greatest : ∀ v e, s.label v = some e → e ≤ d + 1

/-- **What holds of a search between two visits.** -/
structure Sound (neighbours : Nat → List Nat) (starts : List Nat) (n : Nat) (s : Search) : Prop where
  length : s.labels.length = n
  started : ∀ v ∈ starts, s.label v = some 0
  ways : ∀ v d, s.label v = some d → Reaches (fun u v => v ∈ neighbours u) starts d v
  layered : ∃ d, s.Layered d
  /-- A place that is no longer queued has been visited. -/
  visited : ∀ u d, s.label u = some d → u ∉ s.queue →
    ∀ v ∈ neighbours u, ∃ e ≤ d + 1, s.label v = some e

variable {neighbours : Nat → List Nat} {starts : List Nat} {n : Nat}

theorem label_blank (n v : Nat) : (Search.mk (List.replicate n none) []).label v = none := by
  unfold label
  rw [List.getElem?_replicate]
  split <;> rfl

theorem sound_start (hstarts : ∀ v ∈ starts, v < n) : Sound neighbours starts n (start n starts) := by
  have h : Reached 0 starts ⟨List.replicate n none, []⟩ (start n starts) := reached_foldl 0 starts _
  -- All labels are new, and new labels are zero.
  have hlabel : ∀ v e, (start n starts).label v = some e → e = 0 ∧ v ∈ starts ∧ v ∈ (start n starts).queue := by
    intro v e hv
    rcases h.fresh v e hv with hold | hnew
    · rw [label_blank] at hold
      cases hold
    · exact hnew
  obtain ⟨new, hqueue, hnew⟩ := h.queue
  refine ⟨h.length.trans List.length_replicate, ?_, ?_, ⟨0, ⟨new, [], ?_, hnew, nofun⟩, ?_⟩, ?_⟩
  · intro v hv
    obtain ⟨e, he⟩ := h.seen v hv (by simpa using hstarts v hv)
    obtain ⟨rfl, -⟩ := hlabel v e he
    exact he
  · intro v d hv
    obtain ⟨rfl, hmem, -⟩ := hlabel v d hv
    exact .start hmem
  · rw [hqueue, List.append_nil, List.nil_append]
  · intro v e hv
    rw [(hlabel v e hv).1]
    exact Nat.zero_le _
  · intro u d hu hout
    exact absurd (hlabel u d hu).2.2 hout

/-- The label of the first place in the queue is that of a layer. -/
theorem Layered.first {d u : Nat} {labels : List (Option Nat)} {queue : List Nat}
    (h : Layered d ⟨labels, u :: queue⟩) :
    ∃ e, Layered e ⟨labels, queue⟩ ∧ Search.label ⟨labels, queue⟩ u = some e := by
  obtain ⟨⟨now, later, hqueue, hnow, hlater⟩, hgreatest⟩ := h
  cases now with
  | cons w now =>
    obtain ⟨rfl, hrest⟩ := List.cons.inj hqueue
    exact ⟨d, ⟨⟨now, later, hrest, fun x hx => hnow x (List.mem_cons_of_mem _ hx), hlater⟩, hgreatest⟩,
      hnow u List.mem_cons_self⟩
  | nil =>
    -- The layer is finished, and the next one begins with `u`.
    rw [List.nil_append] at hqueue
    change u :: queue = later at hqueue
    subst hqueue
    exact ⟨d + 1, ⟨⟨queue, [], (List.append_nil _).symm, fun x hx => hlater x (List.mem_cons_of_mem _ hx), nofun⟩,
      fun v e hv => Nat.le_succ_of_le (hgreatest v e hv)⟩, hlater u List.mem_cons_self⟩

theorem Layered.reached {d : Nat} {vs : List Nat} {s s' : Search} (hs : Layered d s)
    (h : Reached (d + 1) vs s s') : Layered d s' := by
  obtain ⟨⟨now, later, hqueue, hnow, hlater⟩, hgreatest⟩ := hs
  obtain ⟨new, hqueue', hnew⟩ := h.queue
  refine ⟨⟨now, later ++ new, ?_, fun u hu => h.kept u d (hnow u hu), ?_⟩, ?_⟩
  · rw [hqueue', hqueue, List.append_assoc]
  · intro u hu
    rcases List.mem_append.1 hu with hu | hu
    · exact h.kept u (d + 1) (hlater u hu)
    · exact hnew u hu
  · intro v e hv
    rcases h.fresh v e hv with hold | ⟨rfl, -⟩
    · exact hgreatest v e hold
    · exact le_rfl

/-- **A visit keeps what holds.** -/
theorem Sound.visit {u : Nat} {labels : List (Option Nat)} {queue : List Nat}
    (hneighbours : ∀ u, ∀ v ∈ neighbours u, v < n) (hs : Sound neighbours starts n ⟨labels, u :: queue⟩) :
    Sound neighbours starts n (Search.visit neighbours u ⟨labels, queue⟩) := by
  obtain ⟨d, hlayered⟩ := hs.layered
  obtain ⟨d, hlayered, hu⟩ := hlayered.first
  have h : Reached (d + 1) (neighbours u) ⟨labels, queue⟩ (Search.visit neighbours u ⟨labels, queue⟩) := by
    unfold Search.visit
    rw [hu]
    exact reached_foldl (d + 1) (neighbours u) _
  have hlayered' := hlayered.reached h
  refine ⟨h.length.trans hs.length, fun v hv => h.kept v 0 (hs.started v hv), ?_, ⟨d, hlayered'⟩, ?_⟩
  · intro v e hv
    rcases h.fresh v e hv with hold | ⟨rfl, hmem, -⟩
    · exact hs.ways v e hold
    · exact .step (hs.ways u d hu) hmem
  · intro w e hw hout v hv
    obtain ⟨new, hqueue, -⟩ := h.queue
    by_cases hwu : w = u
    · -- The place just visited: its neighbours have a label, and no label exceeds the layer.
      subst hwu
      have hed : d = e := Option.some.inj ((h.kept w d hu).symm.trans hw)
      obtain ⟨x, hx⟩ := h.seen v hv (by simpa using hs.length ▸ hneighbours w v hv)
      exact ⟨x, hed ▸ hlayered'.greatest v x hx, hx⟩
    · have hold : Search.label ⟨labels, queue⟩ w = some e := by
        rcases h.fresh w e hw with hold | ⟨-, -, hq⟩
        · exact hold
        · exact absurd hq hout
      have hnot : w ∉ u :: queue := by
        intro hmem
        rcases List.mem_cons.1 hmem with hwu' | hmem
        · exact hwu hwu'
        · exact hout (hqueue ▸ List.mem_append_left new hmem)
      obtain ⟨x, hx, hlabel⟩ := hs.visited w e hold hnot v hv
      exact ⟨x, hx, h.kept v x hlabel⟩

/-! ## 4. The whole search -/

theorem Sound.run {s : Search} (hneighbours : ∀ u, ∀ v ∈ neighbours u, v < n)
    (hs : Sound neighbours starts n s) : Sound neighbours starts n ⟨s.run neighbours, []⟩ := by
  induction s using Search.run.induct neighbours with
  | case1 labels =>
    rw [Search.run]
    exact hs
  | case2 labels u queue ih =>
    rw [Search.run]
    exact ih (hs.visit hneighbours)

/-- With nothing left to visit, labels along a way grow by one at most. -/
theorem Sound.label_le {labels : List (Option Nat)} {m v : Nat} (hs : Sound neighbours starts n ⟨labels, []⟩)
    (hway : Reaches (fun u v => v ∈ neighbours u) starts m v) :
    ∃ d ≤ m, Search.label ⟨labels, []⟩ v = some d := by
  induction hway with
  | start hv => exact ⟨0, le_rfl, hs.started _ hv⟩
  | step _ hnext ih =>
    obtain ⟨d, hd, hu⟩ := ih
    obtain ⟨e, he, hv⟩ := hs.visited _ d hu List.not_mem_nil _ hnext
    exact ⟨e, he.trans (Nat.succ_le_succ hd), hv⟩

/-- **The labels of a finished search are the distances.** -/
theorem Sound.label_eq_some_iff {labels : List (Option Nat)} {v d : Nat}
    (hs : Sound neighbours starts n ⟨labels, []⟩) :
    Search.label ⟨labels, []⟩ v = some d ↔ AtDistance (fun u v => v ∈ neighbours u) starts v d := by
  constructor
  · intro hv
    refine ⟨hs.ways v d hv, fun m hm => ?_⟩
    obtain ⟨e, he, hv'⟩ := hs.label_le hm
    exact Option.some.inj (hv.symm.trans hv') ▸ he
  · rintro ⟨hway, hleast⟩
    obtain ⟨e, he, hv⟩ := hs.label_le hway
    rw [hv, le_antisymm he (hleast (hs.ways v e hv))]

/-- **A search labels `n` places with their distances** from the starts. -/
theorem run_start (hneighbours : ∀ u, ∀ v ∈ neighbours u, v < n) (hstarts : ∀ v ∈ starts, v < n) :
    ((start n starts).run neighbours).length = n ∧
      ∀ v d, ((start n starts).run neighbours)[v]? = some (some d) ↔
        AtDistance (fun u v => v ∈ neighbours u) starts v d := by
  have hs := (sound_start hstarts : Sound neighbours starts n _).run hneighbours
  refine ⟨hs.length, fun v d => ?_⟩
  rw [← hs.label_eq_some_iff, label_eq_some]

/-- A path of three places beside a place apart, with a start that is given twice. -/
example :
    (start 4 [0, 0]).run (fun u => [[1], [0, 2], [1], []].getD u []) = [some 0, some 1, some 2, none] := by
  decide +kernel

end Search

end CallCoupling
