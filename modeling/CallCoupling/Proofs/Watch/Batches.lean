import CallCoupling.Watch.Debouncer
import Mathlib

/-!
# A debouncer cuts its changes into batches

Whatever a debouncer meets, in whatever order, the changes that it takes in are cut into consecutive batches, and
each of its reports is one batch merged: nothing is lost, nothing is in two batches, and no batch is empty. What is
behind the last cut is still collected, so a stop, which is one more flush, leaves nothing behind.

Two things are kept by every step and carry this. One is the cut itself (`Debouncer.Cuts`), which goes on where it
ended. The other is that the two timers run exactly while something is collected (`Debouncer.Coherent`): a timer that
runs has something to report, and what is collected has a timer to report it.
-/

set_option autoImplicit false

namespace CallCoupling.Debouncer

/-- A change stands for a batch: it has the kind of the last change, and the paths of all of them, each once and
    in the order in which they are first mentioned. -/
structure Merges (batch : List Change) (c : Change) : Prop where
  nonempty : batch ≠ []
  kind : c.kind = (batch.getLast nonempty).kind
  mem_paths : ∀ p, p ∈ c.paths ↔ ∃ x ∈ batch, p ∈ x.paths
  nodup_paths : c.paths.Nodup
  first_mention : c.paths.Pairwise fun p q =>
    (batch.flatMap Change.paths).idxOf p < (batch.flatMap Change.paths).idxOf q

/-- Changes are cut into batches with one report for each; the rest is behind the last cut. -/
def Cuts (changes reports rest : List Change) : Prop :=
  ∃ batches : List (List Change), batches.flatten ++ rest = changes ∧ List.Forall₂ Merges batches reports

/-- Nothing is collected and no timer runs. -/
def Idle (d : Debouncer) : Prop := d.collected = [] ∧ d.quiet = false ∧ d.deadline = false

/-- Something is collected and both timers run. -/
def Busy (d : Debouncer) : Prop := d.collected ≠ [] ∧ d.quiet = true ∧ d.deadline = true

def Coherent (d : Debouncer) : Prop := d.Idle ∨ d.Busy

/-- The change that a step brings, if it brings one. -/
def Step.change? : Step → Option Change
  | .change c => some c
  | _ => none

/-- The changes that are taken in over steps. -/
def taken (steps : List Step) : List Change := steps.filterMap Step.change?

/-- A debouncer after steps. -/
def after : Debouncer → List Step → Debouncer
  | d, [] => d
  | d, s :: rest => (d.step s).1.after rest

/-! ## 1. Paths by first mention -/

theorem distinct_concat (xs : List String) (x : String) :
    distinct (xs ++ [x]) = if x ∈ distinct xs then distinct xs else distinct xs ++ [x] := by
  rw [distinct, List.foldl_concat]
  rfl

theorem mem_distinct {xs : List String} {x : String} : x ∈ distinct xs ↔ x ∈ xs := by
  induction xs using List.reverseRecOn with
  | nil => rfl
  | append_singleton xs y ih =>
    rw [distinct_concat]
    split
    · rename_i hy
      have : x = y → x ∈ xs := by
        rintro rfl
        exact ih.1 hy
      simp [ih]
      tauto
    · simp [ih]

theorem pairwise_distinct (xs : List String) :
    (distinct xs).Pairwise fun p q => xs.idxOf p < xs.idxOf q := by
  induction xs using List.reverseRecOn with
  | nil => exact List.Pairwise.nil
  | append_singleton xs x ih =>
    -- What was mentioned before is still first mentioned where it was.
    have hold : ∀ p ∈ distinct xs, (xs ++ [x]).idxOf p = xs.idxOf p := by
      intro p hp
      exact List.idxOf_append_of_mem (mem_distinct.1 hp)
    have hkept : (distinct xs).Pairwise fun p q => (xs ++ [x]).idxOf p < (xs ++ [x]).idxOf q := by
      refine ih.imp_of_mem ?_
      intro p q hp hq hlt
      rwa [hold p hp, hold q hq]
    rw [distinct_concat]
    split
    · exact hkept
    · rename_i hx
      refine List.pairwise_append.2 ⟨hkept, List.pairwise_singleton _ _, ?_⟩
      intro p hp q hq
      obtain rfl := List.mem_singleton.1 hq
      have hnew : q ∉ xs := fun hmem => hx (mem_distinct.2 hmem)
      rw [hold p hp, List.idxOf_append_of_notMem hnew]
      have := List.idxOf_lt_length_of_mem (mem_distinct.1 hp)
      omega

theorem nodup_distinct (xs : List String) : (distinct xs).Nodup := by
  refine (pairwise_distinct xs).imp ?_
  rintro p q hlt rfl
  exact Nat.lt_irrefl _ hlt

theorem merge?_of_ne_nil {batch : List Change} (h : batch ≠ []) :
    merge? batch = some { kind := (batch.getLast h).kind, paths := distinct (batch.flatMap Change.paths) } := by
  rw [merge?, List.getLast?_eq_getLast_of_ne_nil h]
  rfl

theorem merges_of_merge? {batch : List Change} {c : Change} (h : merge? batch = some c) : Merges batch c := by
  have hne : batch ≠ [] := by
    rintro rfl
    cases h
  rw [merge?_of_ne_nil hne] at h
  obtain rfl := Option.some.inj h
  exact {
    nonempty := hne
    kind := rfl
    mem_paths := fun p => by rw [mem_distinct, List.mem_flatMap]
    nodup_paths := nodup_distinct _
    first_mention := pairwise_distinct _ }

/-! ## 2. One step -/

theorem Cuts.nothing (rest : List Change) : Cuts rest [] rest := ⟨[], rfl, List.Forall₂.nil⟩

/-- A cut goes on where it ended. -/
theorem Cuts.append {changes changes' reports reports' rest rest' : List Change}
    (h : Cuts changes reports rest) (h' : Cuts (rest ++ changes') reports' rest') :
    Cuts (changes ++ changes') (reports ++ reports') rest' := by
  obtain ⟨batches, rfl, hmerges⟩ := h
  obtain ⟨batches', hflat, hmerges'⟩ := h'
  refine ⟨batches ++ batches', ?_, List.rel_append hmerges hmerges'⟩
  rw [List.flatten_append, List.append_assoc, hflat, List.append_assoc]

/-- A flush reports all that was collected, as one batch if it is anything. -/
theorem cuts_flush (d : Debouncer) : Cuts d.collected d.flush.2 [] := by
  unfold flush
  cases hmerge : merge? d.collected with
  | none =>
    have hnil : d.collected = [] := by
      rwa [merge?, Option.map_eq_none_iff, List.getLast?_eq_none_iff] at hmerge
    rw [hnil]
    exact Cuts.nothing []
  | some c => exact ⟨[d.collected], by simp, .cons (merges_of_merge? hmerge) .nil⟩

theorem idle_flush (d : Debouncer) : d.flush.1.Idle := ⟨rfl, rfl, rfl⟩

/-- **What a step can do**: take a change in, with both timers running from then on, or flush, or nothing, for a
    timer that does not run. -/
theorem step_cases (d : Debouncer) (s : Step) :
    (∃ c, s = .change c ∧
      d.step s = ({ collected := d.collected ++ [c], quiet := true, deadline := true }, [])) ∨
    (s.change? = none ∧ d.step s = d.flush) ∨
    (s.change? = none ∧ d.step s = (d, [])) := by
  cases s with
  | change c => exact Or.inl ⟨c, rfl, rfl⟩
  | quiet =>
    cases hquiet : d.quiet with
    | true => exact Or.inr (Or.inl ⟨rfl, if_pos hquiet⟩)
    | false => exact Or.inr (Or.inr ⟨rfl, if_neg (by simp [hquiet])⟩)
  | deadline =>
    cases hdeadline : d.deadline with
    | true => exact Or.inr (Or.inl ⟨rfl, if_pos hdeadline⟩)
    | false => exact Or.inr (Or.inr ⟨rfl, if_neg (by simp [hdeadline])⟩)
  | stop => exact Or.inr (Or.inl ⟨rfl, rfl⟩)

theorem cuts_step (d : Debouncer) (s : Step) :
    Cuts (d.collected ++ s.change?.toList) (d.step s).2 (d.step s).1.collected := by
  rcases d.step_cases s with ⟨c, rfl, hstep⟩ | ⟨hchange, hstep⟩ | ⟨hchange, hstep⟩
  · exact Cuts.nothing _
  · rw [hstep, hchange, Option.toList_none, List.append_nil]
    exact d.cuts_flush
  · rw [hstep, hchange, Option.toList_none, List.append_nil]
    exact Cuts.nothing _

theorem Coherent.step {d : Debouncer} (hd : d.Coherent) (s : Step) : (d.step s).1.Coherent := by
  rcases d.step_cases s with ⟨c, -, hstep⟩ | ⟨-, hstep⟩ | ⟨-, hstep⟩
  · rw [hstep]
    exact Or.inr ⟨by simp, rfl, rfl⟩
  · rw [hstep]
    exact Or.inl d.idle_flush
  · rwa [hstep]

/-! ## 3. Runs -/

theorem taken_cons (s : Step) (rest : List Step) : taken (s :: rest) = s.change?.toList ++ taken rest := by
  rw [taken, List.filterMap_cons]
  cases s.change? <;> rfl

theorem cuts_run (d : Debouncer) (steps : List Step) :
    Cuts (d.collected ++ taken steps) (d.run steps) (d.after steps).collected := by
  induction steps generalizing d with
  | nil =>
    rw [show taken [] = [] from rfl, List.append_nil]
    exact Cuts.nothing _
  | cons s rest ih =>
    rw [taken_cons, ← List.append_assoc]
    exact (d.cuts_step s).append (ih (d.step s).1)

theorem Coherent.after {d : Debouncer} (hd : d.Coherent) (steps : List Step) : (d.after steps).Coherent := by
  induction steps generalizing d with
  | nil => exact hd
  | cons s rest ih => exact ih (hd.step s)

theorem after_concat_stop (d : Debouncer) (steps : List Step) : (d.after (steps ++ [.stop])).Idle := by
  induction steps generalizing d with
  | nil => exact d.idle_flush
  | cons s rest ih => exact ih (d.step s).1

/-- **A debouncer partitions what it takes in.** When a stop ends its steps, the changes that it has taken in are the
    concatenation of batches, none of them empty, and its reports are these batches, one for one, each merged: with
    the kind of the last change, and with all paths once, in the order of first mention. Before that, after
    whatever steps, the reports so far are such batches too and what they do not hold is what is collected; and
    either nothing is collected and no timer runs, or something is and both do. -/
theorem partitions (steps : List Step) :
    (∃ batches : List (List Change), batches.flatten = taken steps ∧
      List.Forall₂ Merges batches (run {} (steps ++ [.stop]))) ∧
    Cuts (taken steps) (run {} steps) (after {} steps).collected ∧
    ((after {} steps).Idle ∨ (after {} steps).Busy) := by
  have hstart : Coherent {} := Or.inl ⟨rfl, rfl, rfl⟩
  refine ⟨?_, cuts_run {} steps, hstart.after steps⟩
  obtain ⟨batches, hflat, hmerges⟩ := cuts_run {} (steps ++ [.stop])
  refine ⟨batches, ?_, hmerges⟩
  have hrest : (after {} (steps ++ [.stop])).collected = [] := (after_concat_stop {} steps).1
  have htaken : taken (steps ++ [.stop]) = taken steps := by
    rw [taken, List.filterMap_append]
    exact List.append_nil _
  rw [hrest, List.append_nil, htaken] at hflat
  exact hflat

/-- A burst that the quiet period ends, a change that only the deadline reports, and one that only the stop does. -/
example :
    let removed : Change := { kind := .removed, paths := ["a", "b"] }
    let written : Change := { kind := .written, paths := ["b", "c"] }
    run {} [.change removed, .change written, .quiet, .quiet, .change removed, .deadline, .change written, .stop] =
      [{ kind := .written, paths := ["a", "b", "c"] }, removed, written] := by
  decide

end CallCoupling.Debouncer
