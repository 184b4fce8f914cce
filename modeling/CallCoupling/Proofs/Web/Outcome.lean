import CallCoupling.Web.Exchange
import Mathlib

/-!
# Which status is logged

A status goes out once: the first action of a handler decides it, and a status that is set later changes nothing for
the client (`Exchange.sentCode`). The log takes down every status that is set and shows the last one
(`Exchange.lastCode`), so it may tell of a failure that the client never saw, or hide one. How far the two go
together is said in `Exchange.logs_last_status`: the log tells the status that was sent exactly if the last status
that was set is that one.

A run is followed by the two codes alone (`Exchange.run_codes`); headers and body play no part.
-/

set_option autoImplicit false

namespace CallCoupling

def Action.code? : Action → Option Int
  | .status code => some code
  | .write _ => none
  | .flush => none

namespace Exchange

/-- The status that goes out: the first action decides, and 200 goes out with a body or at the end. -/
def sentCode : List Action → Int
  | [] => 200
  | a :: _ => a.code?.getD 200

def lastCode (actions : List Action) : Int := (actions.filterMap Action.code?).getLast?.getD 200

/-- The codes of final responses. -/
def Final (actions : List Action) : Prop := ∀ code, Action.status code ∈ actions → 200 ≤ code ∧ code ≤ 999

/-- The note says that a request ended with this status, and is an error if it is one of the server's. -/
structure TellsStatus (n : Log.Note) (code : Int) : Prop where
  status : ∀ v, (⟨"status", v⟩ : Log.Attr) ∈ n.entry.attrs ↔ v = .whole code
  level : n.entry.level = if 500 ≤ code then Log.Level.error else Log.Level.info

theorem TellsStatus.unique {n : Log.Note} {code code' : Int} (h : TellsStatus n code)
    (h' : TellsStatus n code') : code = code' := by
  have hmem := (h.status (.whole code)).2 rfl
  exact Log.Value.whole.inj ((h'.status _).1 hmem)

theorem tellsStatus_note (r : Request) (id : String) (elapsed : Duration) (x : Exchange) :
    TellsStatus (x.note r id elapsed) x.last := by
  have hattrs : (x.note r id elapsed).entry.attrs =
      (if (Loose.ofString id).isEmpty then [] else [⟨"requestID", .text (Loose.ofString id)⟩]) ++
        [.text "method" r.method, ⟨"path", .text r.address.path⟩, .whole "status" x.last,
          .whole "durationMs" elapsed.milliseconds] := by
    unfold note
    split
    · rfl
    · rfl
  refine ⟨?_, ?_⟩
  · intro v
    rw [hattrs, List.mem_append]
    constructor
    · rintro (hmem | hmem)
      · split at hmem
        · cases hmem
        · simp at hmem
      · simpa [Log.Attr.text, Log.Attr.whole] using hmem
    · rintro rfl
      exact Or.inr (by simp [Log.Attr.whole])
  · unfold note
    split
    · rfl
    · rfl

/-! ## 2. Runs -/

theorem step_codes (x : Exchange) {a : Action} (ha : ∀ code, a = .status code → 200 ≤ code ∧ code ≤ 999) :
    ∃ x', x.step a = .ok x' ∧ x'.sent = some (x.sent.getD (a.code?.getD 200)) ∧
      x'.last = a.code?.getD x.last := by
  have hsend : ∀ (y : Exchange) (code : Int), (y.send code).sent = some (y.sent.getD code) := by
    intro y code
    unfold send
    cases hy : y.sent with
    | none => rfl
    | some c => simp [hy]
  have hlast : ∀ (y : Exchange) (code : Int), (y.send code).last = y.last := by
    intro y code
    unfold send
    split
    · rfl
    · rfl
  cases a with
  | status code =>
    obtain ⟨hleast, hgreatest⟩ := ha code rfl
    have hfinal : ¬ (x.sent.isNone && (code < 100 || 999 < code)) = true := by
      simp only [Bool.and_eq_true, Bool.or_eq_true, decide_eq_true_eq]
      omega
    refine ⟨{ x.send code with last := code }, ?_, hsend x code, rfl⟩
    rw [step, if_neg hfinal]
  | write text =>
    have htyped : (x.typed text).sent = x.sent ∧ (x.typed text).last = x.last := by
      unfold typed
      split
      · exact ⟨rfl, rfl⟩
      · exact ⟨rfl, rfl⟩
    refine ⟨_, rfl, ?_, ?_⟩
    · exact (hsend (x.typed text) 200).trans (by rw [htyped.1]; rfl)
    · exact (hlast (x.typed text) 200).trans htyped.2
  | flush => exact ⟨_, rfl, hsend x 200, hlast x 200⟩

/-- **A run ends with the first status sent and the last status set.** -/
theorem run_codes (x : Exchange) {actions : List Action} (hactions : Final actions) :
    ∃ x', x.run actions = .ok x' ∧ x'.sent.getD 200 = x.sent.getD (sentCode actions) ∧
      x'.last = (actions.filterMap Action.code?).getLast?.getD x.last := by
  induction actions generalizing x with
  | nil => exact ⟨x, rfl, rfl, rfl⟩
  | cons a actions ih =>
    obtain ⟨x₁, hstep, hsent, hlast⟩ := x.step_codes fun code ha => hactions code (ha ▸ List.mem_cons_self)
    obtain ⟨x', hrun, hsent', hlast'⟩ := ih x₁ fun code hcode => hactions code (List.mem_cons_of_mem _ hcode)
    refine ⟨x', ?_, ?_, ?_⟩
    · rw [run, List.foldlM_cons, hstep]
      exact hrun
    · rw [hsent', hsent]
      rfl
    · -- A status that is set by `a` is the last one only if none comes later.
      rw [hlast', hlast]
      cases hcode : a.code? with
      | none => rw [List.filterMap_cons_none hcode]; rfl
      | some code =>
        rw [List.filterMap_cons_some hcode, List.getLast?_cons]
        rfl

/-- **The log tells the last status that was set.** The client gets the first one, and the log tells that one exactly
    if they are the same. -/
theorem logs_last_status (r : Request) (id : String) (elapsed : Duration) {actions : List Action}
    (hactions : Final actions) :
    ∃ x, (start id).run actions = .ok x ∧ x.response.code = sentCode actions ∧
      TellsStatus (x.note r id elapsed) (lastCode actions) ∧
      (TellsStatus (x.note r id elapsed) x.response.code ↔ lastCode actions = sentCode actions) := by
  obtain ⟨x, hrun, hsent, hlast⟩ := (start id).run_codes hactions
  have hcode : x.response.code = sentCode actions := hsent
  have htells : TellsStatus (x.note r id elapsed) (lastCode actions) := by
    have hnote := tellsStatus_note r id elapsed x
    rw [hlast] at hnote
    exact hnote
  refine ⟨x, hrun, hcode, htells, ?_⟩
  rw [hcode]
  constructor
  · intro hsame
    exact htells.unique hsame
  · intro hsame
    exact hsame ▸ htells

/-- A handler that sets the status of a missing page twice, around its body: the log tells it. -/
theorem logs_last_status_set_twice :
    let actions : List Action := [.status 404, .write "missing", .status 404]
    Final actions ∧ ∃ x, (start "abcdefgh").run actions = .ok x ∧ x.response.code = 404 ∧
      TellsStatus (x.note {} "abcdefgh" ⟨0⟩) x.response.code := by
  intro actions
  have hactions : Final actions := by
    intro code hcode
    have hcode' : code = 404 := by simpa [actions] using hcode
    omega
  obtain ⟨x, hrun, hcode, -, htells⟩ := logs_last_status {} "abcdefgh" ⟨0⟩ hactions
  exact ⟨hactions, x, hrun, hcode, htells.2 rfl⟩

/-- A handler that sets a second status: the client gets the first, and the log tells of a failure. -/
theorem log_misses_sent_status :
    let actions : List Action := [.status 200, .status 500, .write "hello"]
    Final actions ∧ ∃ x, (start "abcdefgh").run actions = .ok x ∧ x.response.code = 200 ∧
      TellsStatus (x.note {} "abcdefgh" ⟨0⟩) 500 ∧ ¬ TellsStatus (x.note {} "abcdefgh" ⟨0⟩) 200 := by
  intro actions
  have hactions : Final actions := by
    intro code hcode
    have hcode' : code = 200 ∨ code = 500 := by simpa [actions] using hcode
    omega
  refine ⟨hactions, _, rfl, rfl, tellsStatus_note _ _ _ _, ?_⟩
  intro htells
  have hsame : (200 : Int) = 500 := htells.unique (tellsStatus_note _ _ _ _)
  exact absurd hsame (by decide)

end Exchange

end CallCoupling
