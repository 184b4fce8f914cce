import CallCoupling.Proofs.Watch.Batches
import CallCoupling.Watch.Watcher

/-!
# From a raw event to a report

A watcher hands its changes to a debouncer, one after the other. Both collect and both report in their own time, so
a sequence of raw events may be cut anywhere, twice; and inside one window the watcher forgets the order of writes
and removals, since it reports what was removed before what was written. What the last report says is known all the
same.

Everything that the pipeline holds back, read from its end to its start, is what it will report next, unless more is
heard (`Pipeline.pending`). Passing it on changes nothing about its last change, and merging keeps the kind of the
last change and all paths. So

> what was reported since, and what is pending, together end with the change that is owed

(`Pipeline.Owes`, kept by every step that hears nothing of the file), and where nothing is pending it has been
reported. A write is owed as soon as it is heard (`Pipeline.reports_last_write`). A removal is owed as such only if
the file was not written in the same window: a file that was both is taken for replaced, and its removal is reported
before its write (`Pipeline.reports_last_removal`).

The steps are those of the two stages, in any order, and the debouncer takes changes in the order in which they are
reported. How many may be on their way is not bounded here; a bound only makes the watcher wait, and to wait is to
take no step. That a debouncer that has stopped takes no more is left out too, so there are more runs here than
there can be.
-/

set_option autoImplicit false

namespace CallCoupling

/-- A watcher, the changes on their way to a debouncer, the debouncer, and all that it has reported. -/
structure Pipeline where
  watcher : Watcher
  underway : List Change := []
  debouncer : Debouncer := {}
  reported : List Change := []
deriving DecidableEq, Repr

namespace Pipeline

/-- What a pipeline meets. -/
inductive Step where
  | watcher (s : Watcher.Step)
  /-- The debouncer takes the first change that is on its way, if there is one. -/
  | take
  | quiet
  | deadline
  | stop
deriving DecidableEq, Repr

/-- The pipeline for a file, of which nothing has been heard. -/
def start (path : String) : Pipeline := { watcher := { path } }

/-- The debouncer meets something. -/
def debounce (p : Pipeline) (s : Debouncer.Step) : Pipeline :=
  { p with debouncer := (p.debouncer.step s).1, reported := p.reported ++ (p.debouncer.step s).2 }

def step (p : Pipeline) : Step → Pipeline
  | .watcher s => { p with watcher := (p.watcher.step s).1, underway := p.underway ++ (p.watcher.step s).2 }
  | .take =>
    match p.underway with
    | [] => p
    | c :: rest => { p with underway := rest }.debounce (.change c)
  | .quiet => p.debounce .quiet
  | .deadline => p.debounce .deadline
  | .stop => p.debounce .stop

def run (p : Pipeline) (steps : List Step) : Pipeline := steps.foldl step p

/-- Nothing is held back: both stages have made their last flush, and no change is on its way. -/
def Settled (p : Pipeline) : Prop :=
  p.watcher.removed = [] ∧ p.watcher.written = [] ∧ p.underway = [] ∧ p.debouncer.collected = []

instance (p : Pipeline) : Decidable p.Settled := inferInstanceAs (Decidable (_ ∧ _ ∧ _ ∧ _))

/-- The event that a step brings, if it brings one. -/
def Step.event? : Step → Option RawEvent
  | .watcher (.event e) => some e
  | _ => none

/-- The events of the watcher's window that is still open. -/
def sinceWindow (steps : List Step) : List RawEvent :=
  steps.foldl (fun events s => if s = .watcher .window then [] else events ++ s.event?.toList) []

/-- All that is held back, in the order in which it will be reported. -/
def pending (p : Pipeline) : List Change := p.debouncer.collected ++ (p.underway ++ p.watcher.flush.2)

/-- What was reported since `before`, and what is pending, together end with a change of this kind that mentions
    these paths. -/
def Owes (p : Pipeline) (before : List Change) (kind : ChangeKind) (paths : List String) : Prop :=
  ∃ news c, p.reported = before ++ news ∧ (news ++ p.pending).getLast? = some c ∧
    c.kind = kind ∧ paths ⊆ c.paths

/-- The window that is open now ends later on, and what is reported of it then is two changes: first a removal of
    this path, then a write of that one. -/
def RemovalFirst (p : Pipeline) (later : List Step) (removed written : String) : Prop :=
  ∃ within rest removal write, later = within ++ .watcher .window :: rest ∧ .watcher .window ∉ within ∧
    ((p.run within).watcher.step .window).2 = [removal, write] ∧
    removal.kind = .removed ∧ removed ∈ removal.paths ∧ write.kind = .written ∧ written ∈ write.paths

/-! ## 1. The watcher -/

/-- An event of the file is a write or a removal. -/
theorem kind?_cases (w : Watcher) (e : RawEvent) :
    w.kind? e = none ∨ w.kind? e = some .written ∨ w.kind? e = some .removed := by
  unfold Watcher.kind? ChangeKind.ofBits?
  split_ifs <;> simp

theorem note_of_ignored {w : Watcher} {e : RawEvent} (h : w.kind? e = none) : w.note e = w := by
  rw [Watcher.note, h]

theorem note_of_written {w : Watcher} {e : RawEvent} (h : w.kind? e = some .written) :
    w.note e = { w with written := w.written ++ [e.name] } := by
  rw [Watcher.note, h]

theorem note_of_removed {w : Watcher} {e : RawEvent} (h : w.kind? e = some .removed) :
    w.note e = { w with removed := w.removed ++ [e.name] } := by
  rw [Watcher.note, h]

theorem kind?_note (w : Watcher) (e e' : RawEvent) : (w.note e).kind? e' = w.kind? e' := by
  unfold Watcher.note
  split <;> rfl

theorem kind?_step (p : Pipeline) (s : Step) (e : RawEvent) :
    (p.step s).watcher.kind? e = p.watcher.kind? e := by
  match s with
  | .watcher (.event e') => exact kind?_note p.watcher e' e
  | .watcher .window => rfl
  | .take =>
    unfold step
    dsimp only
    split <;> rfl
  | .quiet => rfl
  | .deadline => rfl
  | .stop => rfl

theorem kind?_run (p : Pipeline) (steps : List Step) (e : RawEvent) :
    (p.run steps).watcher.kind? e = p.watcher.kind? e := by
  induction steps generalizing p with
  | nil => rfl
  | cons s rest ih => exact (ih (p.step s)).trans (p.kind?_step s e)

theorem run_concat (p : Pipeline) (steps : List Step) (s : Step) :
    p.run (steps ++ [s]) = (p.run steps).step s := List.foldl_concat ..

theorem sinceWindow_concat (steps : List Step) (s : Step) :
    sinceWindow (steps ++ [s]) =
      if s = .watcher .window then [] else sinceWindow steps ++ s.event?.toList := List.foldl_concat ..

/-- A step that neither is an event nor ends the window leaves the watcher alone. -/
theorem watcher_step {p : Pipeline} {s : Step} (hs : ∀ s', s ≠ .watcher s') :
    (p.step s).watcher = p.watcher := by
  match s with
  | .watcher s' => exact absurd rfl (hs s')
  | .take =>
    unfold step
    dsimp only
    split <;> rfl
  | .quiet => rfl
  | .deadline => rfl
  | .stop => rfl

/-- What waits to be reported as written are the writes of the open window. -/
theorem written_run (path : String) (steps : List Step) :
    ((start path).run steps).watcher.written =
      ((sinceWindow steps).filter fun e => (start path).watcher.kind? e = some .written).map RawEvent.name := by
  induction steps using List.reverseRecOn with
  | nil => rfl
  | append_singleton steps s ih =>
    rw [run_concat, sinceWindow_concat]
    match s with
    | .watcher .window => rfl
    | .watcher (.event e) =>
      show (((start path).run steps).watcher.note e).written = _
      rw [if_neg (by simp), List.filter_append, List.map_append, ← ih]
      have hkind := (start path).kind?_run steps e
      rcases kind?_cases (start path).watcher e with h | h | h
      · rw [note_of_ignored (hkind.trans h)]
        simp [Step.event?, h]
      · rw [note_of_written (hkind.trans h)]
        simp [Step.event?, h]
      · rw [note_of_removed (hkind.trans h)]
        simp [Step.event?, h]
    | .take | .quiet | .deadline | .stop =>
      rw [watcher_step (by simp), if_neg (by simp), ih]
      exact congrArg _ (congrArg _ (List.append_nil _).symm)

/-- In one window the watcher changes only by what it hears of the file. -/
theorem watcher_run_of_ignored {p : Pipeline} {steps : List Step} (hwindow : .watcher .window ∉ steps)
    (hsteps : ∀ e ∈ steps.filterMap Step.event?, p.watcher.kind? e = none) : (p.run steps).watcher = p.watcher := by
  induction steps using List.reverseRecOn with
  | nil => rfl
  | append_singleton steps s ih =>
    have hrun := ih (fun hmem => hwindow (List.mem_append_left _ hmem)) fun e he =>
      hsteps e (List.filterMap_append ▸ List.mem_append_left _ he)
    rw [run_concat]
    match s with
    | .watcher .window => exact absurd (by simp) hwindow
    | .watcher (.event e) =>
      have hignored := hsteps e (by simp [Step.event?])
      show (p.run steps).watcher.note e = _
      rw [hrun, note_of_ignored hignored]
    | .take | .quiet | .deadline | .stop => rw [watcher_step (by simp), hrun]

/-! ## 2. What is owed -/

/-- A flush keeps what the last change says: where it is merged, its kind and its paths are kept. -/
theorem getLast?_flush (d : Debouncer) {news later : List Change} {c : Change}
    (hlast : (news ++ (d.collected ++ later)).getLast? = some c) :
    ∃ c', (news ++ d.flush.2 ++ later).getLast? = some c' ∧ c'.kind = c.kind ∧ c.paths ⊆ c'.paths := by
  by_cases hlater : later = []
  · subst hlater
    rw [List.append_nil] at hlast ⊢
    by_cases hcollected : d.collected = []
    · have hflush : d.flush.2 = [] := by rw [Debouncer.flush, hcollected]; rfl
      rw [hcollected, List.append_nil] at hlast
      rw [hflush, List.append_nil]
      exact ⟨c, hlast, rfl, List.Subset.refl _⟩
    · obtain ⟨m, hmerge⟩ : ∃ m, Debouncer.merge? d.collected = some m := ⟨_, Debouncer.merge?_of_ne_nil hcollected⟩
      have hmerges := Debouncer.merges_of_merge? hmerge
      have hflush : d.flush.2 = [m] := congrArg Option.toList hmerge
      have hc : d.collected.getLast hcollected = c := by
        rw [List.getLast?_append_of_ne_nil _ hcollected, List.getLast?_eq_getLast_of_ne_nil hcollected] at hlast
        exact Option.some.inj hlast
      refine ⟨m, by rw [hflush, List.getLast?_concat], hmerges.kind.trans (congrArg Change.kind hc), ?_⟩
      intro p hp
      exact (hmerges.mem_paths p).2 ⟨c, hc ▸ List.getLast_mem hcollected, hp⟩
  · rw [← List.append_assoc, List.getLast?_append_of_ne_nil _ hlater] at hlast
    exact ⟨c, by rw [List.getLast?_append_of_ne_nil _ hlater, hlast], rfl, List.Subset.refl _⟩

/-- A debouncer that is handed nothing flushes or does nothing. -/
theorem Owes.debounce {p : Pipeline} {before : List Change} {kind : ChangeKind} {paths : List String}
    (h : p.Owes before kind paths) {s : Debouncer.Step} (hs : s.change? = none) :
    (p.debounce s).Owes before kind paths := by
  obtain ⟨news, c, hreported, hlast, hkind, hpaths⟩ := h
  rcases p.debouncer.step_cases s with ⟨c', rfl, -⟩ | ⟨-, hstep⟩ | ⟨-, hstep⟩
  · cases hs
  · obtain ⟨c', hlast', hkind', hkept⟩ := getLast?_flush p.debouncer hlast
    refine ⟨news ++ p.debouncer.flush.2, c', ?_, ?_, hkind'.trans hkind, List.Subset.trans hpaths hkept⟩
    · rw [Pipeline.debounce, hstep, hreported, List.append_assoc]
    · rw [Pipeline.debounce, hstep]
      exact hlast'
  · have hsame : p.debounce s = p := by rw [Pipeline.debounce, hstep, List.append_nil]
    rw [hsame]
    exact ⟨news, c, hreported, hlast, hkind, hpaths⟩

/-- A step that changes neither what was reported nor what is pending. -/
theorem Owes.of_eq {p p' : Pipeline} {before : List Change} {kind : ChangeKind} {paths : List String}
    (h : p.Owes before kind paths) (hreported : p'.reported = p.reported) (hpending : p'.pending = p.pending) :
    p'.Owes before kind paths := by
  rwa [Owes, hreported, hpending]

theorem pending_window (p : Pipeline) : (p.step (.watcher .window)).pending = p.pending := by
  show p.debouncer.collected ++ (p.underway ++ p.watcher.flush.2 ++ []) = _
  rw [List.append_nil]
  rfl

theorem pending_take (p : Pipeline) : (p.step .take).pending = p.pending := by
  unfold step
  dsimp only
  split
  · rfl
  · rename_i c rest hunderway
    show p.debouncer.collected ++ [c] ++ (rest ++ p.watcher.flush.2) = _
    rw [pending, hunderway, List.append_assoc]
    rfl

theorem reported_take (p : Pipeline) : (p.step .take).reported = p.reported := by
  unfold step
  dsimp only
  split
  · rfl
  · exact List.append_nil _

/-- **What is owed stays owed**, as long as nothing is heard of the file. -/
theorem Owes.step {p : Pipeline} {before : List Change} {kind : ChangeKind} {paths : List String}
    (h : p.Owes before kind paths) {s : Step} (hs : ∀ e ∈ s.event?, p.watcher.kind? e = none) :
    (p.step s).Owes before kind paths := by
  match s with
  | .watcher (.event e) =>
    have hnote : p.watcher.note e = p.watcher := note_of_ignored (hs e rfl)
    refine h.of_eq (by rfl) ?_
    show p.debouncer.collected ++ (p.underway ++ [] ++ (p.watcher.note e).flush.2) = _
    rw [hnote, List.append_nil]
    rfl
  | .watcher .window => exact h.of_eq rfl p.pending_window
  | .take => exact h.of_eq p.reported_take p.pending_take
  | .quiet => exact h.debounce rfl
  | .deadline => exact h.debounce rfl
  | .stop => exact h.debounce rfl

theorem Owes.run {p : Pipeline} {before : List Change} {kind : ChangeKind} {paths : List String}
    (h : p.Owes before kind paths) {steps : List Step}
    (hsteps : ∀ e ∈ steps.filterMap Step.event?, p.watcher.kind? e = none) :
    (p.run steps).Owes before kind paths := by
  induction steps generalizing p with
  | nil => exact h
  | cons s rest ih =>
    refine ih (h.step fun e he => hsteps e ?_) fun e he => ?_
    · exact List.mem_filterMap.2 ⟨s, by simp, he⟩
    · obtain ⟨s', hs', he⟩ := List.mem_filterMap.1 he
      rw [kind?_step]
      exact hsteps e (List.mem_filterMap.2 ⟨s', by simp [hs'], he⟩)

/-- **What is owed has been reported, once nothing is held back.** -/
theorem Owes.reported {p : Pipeline} {before : List Change} {kind : ChangeKind} {paths : List String}
    (h : p.Owes before kind paths) (hp : p.Settled) :
    ∃ news c, p.reported = before ++ news ∧ news.getLast? = some c ∧ c.kind = kind ∧ paths ⊆ c.paths := by
  obtain ⟨hremoved, hwritten, hunderway, hcollected⟩ := hp
  have hpending : p.pending = [] := by
    rw [pending, hcollected, hunderway, Watcher.flush, hremoved, hwritten]
    rfl
  obtain ⟨news, c, hreported, hlast, hkind, hpaths⟩ := h
  rw [hpending, List.append_nil] at hlast
  exact ⟨news, c, hreported, hlast, hkind, hpaths⟩

/-! ## 3. What is heard -/

theorem changes_of_ne_nil {kind : ChangeKind} {paths : List String} (h : paths ≠ []) :
    Watcher.changes kind paths = [{ kind, paths }] := by
  rw [Watcher.changes, if_neg (by simpa using h)]

/-- What a watcher flushes ends with the writes, if there are any. -/
theorem getLast?_flush_of_written {w : Watcher} (h : w.written ≠ []) :
    w.flush.2.getLast? = some { kind := .written, paths := w.written } := by
  rw [Watcher.flush, changes_of_ne_nil h, List.getLast?_concat]

theorem getLast?_flush_of_removed {w : Watcher} (hwritten : w.written = []) (h : w.removed ≠ []) :
    w.flush.2.getLast? = some { kind := .removed, paths := w.removed } := by
  rw [Watcher.flush, hwritten, changes_of_ne_nil h]
  rfl

/-- After an event the watcher's last change is owed. -/
theorem owes_event {p : Pipeline} {e : RawEvent} {c : Change}
    (hlast : (p.watcher.note e).flush.2.getLast? = some c) :
    (p.step (.watcher (.event e))).Owes p.reported c.kind c.paths := by
  refine ⟨[], c, (List.append_nil _).symm, ?_, rfl, List.Subset.refl _⟩
  have hne : (p.watcher.note e).flush.2 ≠ [] := by
    intro hnil
    rw [hnil] at hlast
    cases hlast
  show (p.debouncer.collected ++ (p.underway ++ [] ++ (p.watcher.note e).flush.2)).getLast? = some c
  rw [← List.append_assoc, List.getLast?_append_of_ne_nil _ hne, hlast]

theorem owes_of_written {p : Pipeline} {e : RawEvent} (h : p.watcher.kind? e = some .written) :
    (p.step (.watcher (.event e))).Owes p.reported .written (p.watcher.written ++ [e.name]) := by
  refine owes_event (c := { kind := .written, paths := p.watcher.written ++ [e.name] }) ?_
  rw [note_of_written h]
  exact getLast?_flush_of_written (by simp)

theorem owes_of_removed {p : Pipeline} {e : RawEvent} (h : p.watcher.kind? e = some .removed)
    (hwritten : p.watcher.written = []) :
    (p.step (.watcher (.event e))).Owes p.reported .removed (p.watcher.removed ++ [e.name]) := by
  refine owes_event (c := { kind := .removed, paths := p.watcher.removed ++ [e.name] }) ?_
  rw [note_of_removed h]
  exact getLast?_flush_of_removed hwritten (by simp)

/-- A removal leaves the writes of its window to be reported last. -/
theorem owes_of_removed_behind_write {p : Pipeline} {e : RawEvent} (h : p.watcher.kind? e = some .removed)
    (hwritten : p.watcher.written ≠ []) :
    (p.step (.watcher (.event e))).Owes p.reported .written p.watcher.written := by
  refine owes_event (c := { kind := .written, paths := p.watcher.written }) ?_
  rw [note_of_removed h]
  exact getLast?_flush_of_written hwritten

theorem run_append (p : Pipeline) (before after : List Step) :
    p.run (before ++ after) = (p.run before).run after := List.foldl_append

/-- A window with a removal that is heard behind a write is reported in this order: the removal, the write. -/
theorem removalFirst_of_removed {p : Pipeline} {e w : RawEvent} {after : List Step}
    (h : p.watcher.kind? e = some .removed) (hw : w.name ∈ p.watcher.written)
    (hafter : ∀ e' ∈ after.filterMap Step.event?, p.watcher.kind? e' = none)
    (hsettled : ((p.step (.watcher (.event e))).run after).Settled) :
    (p.step (.watcher (.event e))).RemovalFirst after e.name w.name := by
  have hnote : (p.step (.watcher (.event e))).watcher =
      { p.watcher with removed := p.watcher.removed ++ [e.name] } := note_of_removed h
  have hignored : ∀ e' ∈ after.filterMap Step.event?, (p.step (.watcher (.event e))).watcher.kind? e' = none := by
    intro e' he'
    rw [kind?_step]
    exact hafter e' he'
  -- Without the end of the window the watcher would still hold the removal.
  have hwindow : .watcher .window ∈ after := by
    by_contra hnone
    obtain ⟨hremoved, -⟩ := hsettled
    rw [watcher_run_of_ignored hnone hignored, hnote] at hremoved
    simp at hremoved
  obtain ⟨within, rest, rfl, hwithin⟩ := List.eq_append_cons_of_mem hwindow
  have hheld := watcher_run_of_ignored hwithin fun e' he' =>
    hignored e' (List.filterMap_append ▸ List.mem_append_left _ he')
  refine ⟨within, rest, { kind := .removed, paths := p.watcher.removed ++ [e.name] },
    { kind := .written, paths := p.watcher.written }, rfl, hwithin, ?_, rfl, by simp, rfl, hw⟩
  rw [hheld, hnote]
  show Watcher.changes .removed (p.watcher.removed ++ [e.name]) ++ Watcher.changes .written p.watcher.written = _
  rw [changes_of_ne_nil (by simp), changes_of_ne_nil (List.ne_nil_of_mem hw), List.singleton_append]

/-- What is owed after an event is reported in the end, if the file is not heard of again. -/
theorem reported_of_owes_event {path : String} {before after : List Step} {e : RawEvent} {kind : ChangeKind}
    {paths : List String}
    (howes : (((start path).run before).step (.watcher (.event e))).Owes
      ((start path).run before).reported kind paths)
    (hafter : ∀ e' ∈ after.filterMap Step.event?, (start path).watcher.kind? e' = none)
    (hsettled : ((start path).run (before ++ .watcher (.event e) :: after)).Settled) :
    ∃ news c, ((start path).run (before ++ .watcher (.event e) :: after)).reported =
        ((start path).run before).reported ++ news ∧
      news.getLast? = some c ∧ c.kind = kind ∧ paths ⊆ c.paths := by
  rw [run_append] at hsettled ⊢
  refine (howes.run ?_).reported hsettled
  intro e' he'
  rw [kind?_step, kind?_run]
  exact hafter e' he'

/-! ## 4. What is reported -/

/-- **The last write is reported.** Let an event be a write of the watched file, and let none of the events after it
    be about the file, or only such as are ignored. However the windows, the quiet periods and the deadlines fall
    between the events, once nothing is held back the debouncer has made a report since the event. The last one is
    of a written file, names the event's path, and asks for a run. -/
theorem reports_last_write (path : String) (before after : List Step) (e : RawEvent)
    (hwrite : (start path).watcher.kind? e = some .written)
    (hafter : ∀ e' ∈ after.filterMap Step.event?, (start path).watcher.kind? e' = none)
    (hsettled : ((start path).run (before ++ .watcher (.event e) :: after)).Settled) :
    ∃ news c, ((start path).run (before ++ .watcher (.event e) :: after)).reported =
        ((start path).run before).reported ++ news ∧
      news.getLast? = some c ∧ c.kind = .written ∧ e.name ∈ c.paths ∧
      c.needsRun = true ∧ c.reason = "model changed" := by
  have howes := owes_of_written (((start path).kind?_run before e).trans hwrite)
  obtain ⟨news, c, hreported, hlast, hkind, hpaths⟩ := reported_of_owes_event howes hafter hsettled
  have hname : e.name ∈ c.paths := hpaths (by simp)
  exact ⟨news, c, hreported, hlast, hkind, hname, by simp [Change.needsRun, hkind], by rw [Change.reason, hkind]⟩

/-- A removal is already with the debouncer when the write is heard, and the quiet period ends between the two; a
    change of attributes and another file are heard behind the write. -/
theorem reports_last_write_behind_a_removal :
    let removal : RawEvent := ⟨"/m", 4⟩
    let write : RawEvent := ⟨"/./m", 2⟩
    let before : List Step := [.watcher (.event removal), .watcher .window, .take]
    let after : List Step := [.quiet, .watcher (.event ⟨"/m", 16⟩), .watcher .window,
      .watcher (.event ⟨"/n", 2⟩), .take, .watcher .window, .deadline]
    let p := (start "/m").run (before ++ .watcher (.event write) :: after)
    p.Settled ∧ ∃ news c, p.reported = ((start "/m").run before).reported ++ news ∧ news.getLast? = some c ∧
      c.kind = .written ∧ "/./m" ∈ c.paths ∧ c.needsRun = true := by
  intro removal write before after p
  have hsettled : p.Settled := by decide
  obtain ⟨news, c, hreported, hlast, hkind, hname, hrun, -⟩ :=
    reports_last_write "/m" before after write (by decide) (by decide) hsettled
  exact ⟨hsettled, news, c, hreported, hlast, hkind, hname, hrun⟩

/-- **The last removal is reported, unless it is taken for a replacement.** Let an event be a removal of the watched
    file, and let none of the events after it be about the file, or only such as are ignored. Once nothing is held
    back the debouncer has made a report since the event. If the file was not written in the same window before,
    the last report is of a removed file, names the event's path, and asks for no run. If it was, the watcher reports
    the removal before the write, and the last report is of a written file, names the path of the write, and asks
    for a run. -/
theorem reports_last_removal (path : String) (before after : List Step) (e : RawEvent)
    (hremoval : (start path).watcher.kind? e = some .removed)
    (hafter : ∀ e' ∈ after.filterMap Step.event?, (start path).watcher.kind? e' = none)
    (hsettled : ((start path).run (before ++ .watcher (.event e) :: after)).Settled) :
    ∃ news c, ((start path).run (before ++ .watcher (.event e) :: after)).reported =
        ((start path).run before).reported ++ news ∧
      news.getLast? = some c ∧
      ((∀ w ∈ sinceWindow before, (start path).watcher.kind? w ≠ some .written) →
        c.kind = .removed ∧ e.name ∈ c.paths ∧ c.needsRun = false ∧ c.reason = "model removed") ∧
      ∀ w ∈ sinceWindow before, (start path).watcher.kind? w = some .written →
        ((start path).run (before ++ [.watcher (.event e)])).RemovalFirst after e.name w.name ∧
        c.kind = .written ∧ w.name ∈ c.paths ∧ c.needsRun = true := by
  have hremoval' := ((start path).kind?_run before e).trans hremoval
  have hwritten := written_run path before
  by_cases hempty : ((start path).run before).watcher.written = []
  · obtain ⟨news, c, hreported, hlast, hkind, hpaths⟩ :=
      reported_of_owes_event (owes_of_removed hremoval' hempty) hafter hsettled
    have hname : e.name ∈ c.paths := hpaths (by simp)
    rw [hempty, eq_comm, List.map_eq_nil_iff, List.filter_eq_nil_iff] at hwritten
    refine ⟨news, c, hreported, hlast, fun _ => ⟨hkind, hname, ?_, by rw [Change.reason, hkind]⟩, ?_⟩
    · simp [Change.needsRun, hkind]
    · intro w hw hwrite
      exact absurd (decide_eq_true hwrite) (hwritten w hw)
  · obtain ⟨news, c, hreported, hlast, hkind, hpaths⟩ :=
      reported_of_owes_event (owes_of_removed_behind_write hremoval' hempty) hafter hsettled
    refine ⟨news, c, hreported, hlast, ?_, ?_⟩
    · intro hnone
      refine absurd ?_ hempty
      rw [hwritten, List.map_eq_nil_iff, List.filter_eq_nil_iff]
      simpa using hnone
    · intro w hw hwrite
      have hheld : w.name ∈ ((start path).run before).watcher.written := by
        rw [hwritten]
        exact List.mem_map_of_mem (List.mem_filter.2 ⟨hw, decide_eq_true hwrite⟩)
      refine ⟨?_, hkind, hpaths hheld, by simp [Change.needsRun, hkind]⟩
      rw [run_concat]
      refine removalFirst_of_removed hremoval' hheld (fun e' he' => ?_) ?_
      · rw [kind?_run]
        exact hafter e' he'
      · rwa [run_append] at hsettled

/-- The file is written in one window and removed in the next, and the debouncer takes both as one burst. -/
theorem reports_last_removal_in_a_later_window :
    let write : RawEvent := ⟨"/m", 2⟩
    let removal : RawEvent := ⟨"/m", 4⟩
    let before : List Step := [.watcher (.event write), .watcher .window]
    let after : List Step := [.watcher .window, .take, .take, .quiet]
    let p := (start "/m").run (before ++ .watcher (.event removal) :: after)
    p.Settled ∧ ∃ news c, p.reported = ((start "/m").run before).reported ++ news ∧ news.getLast? = some c ∧
      c.kind = .removed ∧ c.needsRun = false := by
  intro write removal before after p
  have hsettled : p.Settled := by decide
  obtain ⟨news, c, hreported, hlast, hkept, -⟩ :=
    reports_last_removal "/m" before after removal (by decide) (by decide) hsettled
  obtain ⟨hkind, -, hrun, -⟩ := hkept (by decide)
  exact ⟨hsettled, news, c, hreported, hlast, hkind, hrun⟩

/-- **Not every removal is reported as one.** A file that is written and removed in one window is reported as written
    in the end, and a run is asked for. -/
theorem write_outlasts_removal_in_one_window :
    ¬ ∀ (path : String) (before after : List Step) (e : RawEvent),
      (start path).watcher.kind? e = some .removed →
      (∀ e' ∈ after.filterMap Step.event?, (start path).watcher.kind? e' = none) →
      ((start path).run (before ++ .watcher (.event e) :: after)).Settled →
      ∃ c, ((start path).run (before ++ .watcher (.event e) :: after)).reported.getLast? = some c ∧
        c.kind = .removed ∧ c.needsRun = false := by
  intro hall
  obtain ⟨c, hlast, hkind, -⟩ := hall "/m" [.watcher (.event ⟨"/m", 2⟩)] [.watcher .window, .take, .take, .quiet]
    ⟨"/m", 4⟩ (by decide) (by decide) (by decide)
  have hwritten : ((start "/m").run [.watcher (.event ⟨"/m", 2⟩), .watcher (.event ⟨"/m", 4⟩), .watcher .window,
      .take, .take, .quiet]).reported = [{ kind := .written, paths := ["/m"] }] := by decide
  rw [List.singleton_append, hwritten] at hlast
  cases hlast
  cases hkind

end Pipeline

end CallCoupling
