/-!
# Breadth-first search

A search labels places with their distance from the nearest of some starts.  It keeps a queue of places whose
neighbours are still to be looked at.  A place that has no label yet gets one when it is reached, and joins the
queue at its end; so a missing label is also the mark of what has not been seen.

A place joins the queue once at most.  The places without a label and those in the queue get fewer with each
visit, which is why a search ends.
-/

set_option autoImplicit false

namespace CallCoupling

/-- A search on its way: the labels found so far, and the places to look at next. -/
structure Search where
  labels : List (Option Nat)
  queue : List Nat
deriving DecidableEq, Repr, Inhabited

namespace Search

/-- The label of a place, if it has one. -/
def label (s : Search) (v : Nat) : Option Nat := (s.labels[v]?).join

/-- The label of what is one step away from a place with this label; where no label is, labels begin. -/
def beyond : Option Nat → Nat
  | none => 0
  | some d => d + 1

/-- Reach a place: label it and queue it, unless it has been seen. -/
def reach (d : Nat) (s : Search) (v : Nat) : Search :=
  if s.labels[v]? = some none then { labels := s.labels.set v (some d), queue := s.queue ++ [v] } else s

/-- Reach the neighbours of a place. -/
def visit (neighbours : Nat → List Nat) (u : Nat) (s : Search) : Search :=
  (neighbours u).foldl (reach (beyond (s.label u))) s

/-- The search that has seen nothing but its starts, out of `n` places. -/
def start (n : Nat) (starts : List Nat) : Search := starts.foldl (reach 0) ⟨List.replicate n none, []⟩

/-- The number of visits that are left. -/
def left (s : Search) : Nat := s.labels.count none + s.queue.length

theorem left_reach (d : Nat) (s : Search) (v : Nat) : (s.reach d v).left = s.left := by
  unfold reach left
  split
  · rename_i hv
    obtain ⟨hlt, hnone⟩ := List.getElem?_eq_some_iff.1 hv
    have hpos : 0 < s.labels.count none := List.count_pos_iff.2 (List.mem_of_getElem? hv)
    rw [List.count_set hlt, hnone]
    simp
    omega
  · rfl

theorem left_foldl_reach (d : Nat) (vs : List Nat) (s : Search) : (vs.foldl (reach d) s).left = s.left := by
  induction vs generalizing s with
  | nil => rfl
  | cons v vs ih => rw [List.foldl_cons, ih, left_reach]

/-- The labels at the end, when the places in the queue have been visited one by one. -/
def run (neighbours : Nat → List Nat) : Search → List (Option Nat)
  | ⟨labels, []⟩ => labels
  | ⟨labels, u :: queue⟩ => run neighbours (visit neighbours u ⟨labels, queue⟩)
termination_by s => s.left
decreasing_by
  rw [visit, left_foldl_reach]
  simp [left]

end Search

end CallCoupling
