import CallCoupling.Event.Hub
import Mathlib

/-!
# The past that a topic keeps

A topic numbers its events, and what it keeps of them is always an end of the whole sequence: nothing, the
last event, or the last events of one run. So the versions in a history are consecutive and end with the
version of the topic (`Topic.Sound`), whatever the plan; the next event goes on where the history stops.

`Numbered n events` says that the events have the versions `n + 1`, `n + 2` and so on. It is all that is used
of versions elsewhere: two such lists in a row are one (`Numbered.append`), an end of one is one
(`Numbered.drop`), and the versions of one only rise (`Numbered.pairwise`).
-/

set_option autoImplicit false

namespace CallCoupling

/-! ## 1. Consecutive versions -/

/-- The versions of the events are the numbers after `n`, one by one. -/
def Numbered (n : Nat) (events : List Event) : Prop :=
  events.map Event.version = (List.range' (n + 1) events.length).map Int.ofNat

theorem Numbered.nil (n : Nat) : Numbered n [] := rfl

theorem numbered_singleton {n : Nat} {e : Event} : Numbered n [e] ↔ e.version = n + 1 := by
  simp [Numbered]

theorem numbered_append {n : Nat} {events more : List Event} :
    Numbered n (events ++ more) ↔ Numbered n events ∧ Numbered (n + events.length) more := by
  have hrange : List.range' (n + 1) (events.length + more.length) =
      List.range' (n + 1) events.length ++ List.range' (n + events.length + 1) more.length := by
    rw [Nat.add_right_comm n, List.range'_append_1]
  unfold Numbered
  rw [List.length_append, hrange, List.map_append, List.map_append]
  constructor
  · intro h
    exact List.append_inj h (by simp)
  · rintro ⟨hevents, hmore⟩
    rw [hevents, hmore]

theorem numbered_cons {n : Nat} {e : Event} {events : List Event} :
    Numbered n (e :: events) ↔ e.version = n + 1 ∧ Numbered (n + 1) events := by
  rw [← List.singleton_append, numbered_append, numbered_singleton, List.length_singleton]

theorem Numbered.drop {n : Nat} {events : List Event} (h : Numbered n events) {k : Nat}
    (hk : k ≤ events.length) : Numbered (n + k) (events.drop k) := by
  have hsplit : Numbered n (events.take k ++ events.drop k) := by rwa [List.take_append_drop]
  have hdrop := (numbered_append.mp hsplit).2
  rwa [List.length_take_of_le hk] at hdrop

/-- Versions rise, so no event stands twice in the list. -/
theorem Numbered.pairwise {n : Nat} {events : List Event} (h : Numbered n events) :
    events.Pairwise fun a b => a.version < b.version := by
  have hrange : ((List.range' (n + 1) events.length).map Int.ofNat).Pairwise (· < ·) := by
    rw [List.pairwise_map]
    exact List.Pairwise.imp Int.ofNat_lt.mpr List.pairwise_lt_range'
  rw [← h, List.pairwise_map] at hrange
  exact hrange

/-! ## 2. The history of a topic -/

/-- **A history is an end of what was published on its topic.** It is never longer than the plan allows, and
    a topic that replays nothing keeps none. -/
structure Topic.Sound (name : String) (t : Topic) : Prop where
  length_le_limit : t.history.length ≤ t.plan.limit
  length_le_version : t.history.length ≤ t.version
  numbered : Numbered (t.version - t.history.length) t.history
  topic : ∀ e ∈ t.history, e.topic = name
  empty : t.plan.replay = .nothing → t.history = []

theorem Plan.limit_pos (p : Plan) : 0 < p.limit := by
  unfold Plan.limit Plan.usualLimit
  split
  · omega
  · decide

theorem Topic.sound_new (name : String) (plan : Plan) : Topic.Sound name { plan } where
  length_le_limit := Nat.zero_le _
  length_le_version := Nat.zero_le _
  numbered := Numbered.nil _
  topic := nofun
  empty := fun _ => rfl

@[simp] theorem Topic.plan_publish (t : Topic) (e : Event) : (t.publish e).plan = t.plan := by
  unfold Topic.publish Topic.record
  cases t.plan.replay <;> rfl

@[simp] theorem Topic.version_publish (t : Topic) (e : Event) :
    (t.publish e).version = t.version + 1 := by
  unfold Topic.publish Topic.record
  cases t.plan.replay <;> rfl

theorem Topic.history_publish_run {t : Topic} (hplan : t.plan.replay = .run) (e : Event) :
    (t.publish e).history =
      Topic.lastItems t.plan.limit ((if e.runId = t.runId then t.history else []) ++ [e]) := by
  simp [Topic.publish, Topic.record, hplan]

theorem Topic.history_publish_latest {t : Topic} (hplan : t.plan.replay = .latest) (e : Event) :
    (t.publish e).history = [e] := by
  simp [Topic.publish, Topic.record, hplan]

theorem Topic.runId_publish_run {t : Topic} (hplan : t.plan.replay = .run) (e : Event) :
    (t.publish e).runId = e.runId := by
  simp [Topic.publish, Topic.record, hplan]

theorem Topic.length_lastItems {α : Type} (n : Nat) (xs : List α) :
    (Topic.lastItems n xs).length = min n xs.length := by
  rw [Topic.lastItems, List.length_drop]
  omega

/-- The last items of a list that ends with version `v` end with version `v`. -/
theorem Numbered.lastItems {v : Nat} {events : List Event} (hlen : events.length ≤ v)
    (h : Numbered (v - events.length) events) (n : Nat) :
    Numbered (v - (Topic.lastItems n events).length) (Topic.lastItems n events) := by
  have hdrop := h.drop (Nat.sub_le events.length n)
  have hstart : v - (Topic.lastItems n events).length =
      v - events.length + (events.length - n) := by
    rw [Topic.length_lastItems]
    omega
  rw [hstart]
  exact hdrop

/-- A list that ends with version `v` can be continued with version `v + 1`. -/
theorem Numbered.concat {v : Nat} {e : Event} {events : List Event} (hlen : events.length ≤ v)
    (h : Numbered (v - events.length) events) (hversion : e.version = v + 1) :
    Numbered (v + 1 - (events ++ [e]).length) (events ++ [e]) := by
  have hstart : v + 1 - (events ++ [e]).length = v - events.length := by
    rw [List.length_append, List.length_singleton]
    omega
  rw [hstart, numbered_append, numbered_singleton]
  refine ⟨h, ?_⟩
  omega

/-- **The next event of a topic keeps its history sound.** -/
theorem Topic.Sound.publish {name : String} {t : Topic} (ht : t.Sound name) {e : Event}
    (htopic : e.topic = name) (hversion : e.version = t.version + 1) : (t.publish e).Sound name := by
  have hversion' : (t.publish e).version = t.version + 1 := Topic.version_publish t e
  cases hplan : t.plan.replay with
  | nothing =>
    have hnone : (t.publish e).history = [] := by
      simp [Topic.publish, Topic.record, hplan, ht.empty hplan]
    refine ⟨?_, ?_, ?_, ?_, fun _ => hnone⟩
    · simp [hnone]
    · simp [hnone]
    · rw [hnone]
      exact Numbered.nil _
    · simp [hnone]
  | latest =>
    have hone : (t.publish e).history = [e] := Topic.history_publish_latest hplan e
    refine ⟨?_, ?_, ?_, ?_, ?_⟩
    · rw [hone, Topic.plan_publish]
      exact t.plan.limit_pos
    · rw [hone, hversion', List.length_singleton]
      omega
    · rw [hone, hversion']
      exact numbered_singleton.mpr hversion
    · rw [hone]
      intro e' he'
      rw [List.mem_singleton.mp he']
      exact htopic
    · rw [Topic.plan_publish, hplan]
      exact nofun
  | run =>
    -- What is kept of the past: all of the history, or nothing of it.
    obtain ⟨kept, hkept, hsub, hlen, hnumbered⟩ : ∃ kept,
        (if e.runId = t.runId then t.history else []) = kept ∧ (∀ e' ∈ kept, e' ∈ t.history) ∧
          kept.length ≤ t.version ∧ Numbered (t.version - kept.length) kept := by
      refine ⟨_, rfl, ?_⟩
      split
      · exact ⟨fun _ => id, ht.length_le_version, ht.numbered⟩
      · exact ⟨nofun, Nat.zero_le _, Numbered.nil _⟩
    have hhistory : (t.publish e).history = Topic.lastItems t.plan.limit (kept ++ [e]) := by
      rw [Topic.history_publish_run hplan, hkept]
    have hlen' : (kept ++ [e]).length ≤ t.version + 1 := by
      rw [List.length_append, List.length_singleton]
      omega
    refine ⟨?_, ?_, ?_, ?_, ?_⟩
    · rw [hhistory, Topic.length_lastItems, Topic.plan_publish]
      exact Nat.min_le_left _ _
    · rw [hhistory, hversion', Topic.length_lastItems]
      exact Nat.le_trans (Nat.min_le_right _ _) hlen'
    · rw [hhistory, hversion']
      exact (hnumbered.concat hlen hversion).lastItems hlen' _
    · rw [hhistory]
      intro e' he'
      rcases List.mem_append.mp (List.mem_of_mem_drop he') with hold | hnew
      · exact ht.topic e' (hsub e' hold)
      · rw [List.mem_singleton.mp hnew]
        exact htopic
    · rw [Topic.plan_publish, hplan]
      exact nofun

end CallCoupling
