import CallCoupling.Model.Decode
import Mathlib

/-!
# Complete and normalised models

A model that was decoded has passed two gates. The check lets it pass exactly if no type, method or invocation
is null at any level (`Project.check_eq_ok_iff`), and normalising leaves it in a form that normalising again
does not change (`Project.normalise_normalise`). The second gate keeps the first: what is complete stays so.

From a complete model the lists of what is there can be taken without losing a place
(`Project.Complete.exists_lists`), which is how later files get rid of null entries.
-/

set_option autoImplicit false

namespace CallCoupling

/-! ## 1. Complete models -/

/-- No invocation is null. -/
def Method.Complete (m : Method) : Prop := ∀ i ∈ m.invocations, ∃ invocation, i = some invocation

/-- No method is null, and none has a null invocation. -/
def TypeDecl.Complete (t : TypeDecl) : Prop := ∀ m ∈ t.methods, ∃ method, m = some method ∧ method.Complete

/-- No entry is null at any level. -/
def Project.Complete (p : Project) : Prop := ∀ t ∈ p.typeList, ∃ decl, t = some decl ∧ decl.Complete

theorem Invocation.firstNull_eq_none_iff {owner method : Name} {k : Nat} {is : List (Option Invocation)} :
    Invocation.firstNull owner method k is = none ↔ ∀ i ∈ is, ∃ invocation, i = some invocation := by
  induction is generalizing k with
  | nil => simp [Invocation.firstNull]
  | cons i is ih =>
    cases i with
    | none => simp [Invocation.firstNull]
    | some invocation => simp [Invocation.firstNull, ih]

theorem Method.firstNull_eq_none_iff {owner : Name} {j : Nat} {ms : List (Option Method)} :
    Method.firstNull owner j ms = none ↔ ∀ m ∈ ms, ∃ method, m = some method ∧ method.Complete := by
  induction ms generalizing j with
  | nil => simp [Method.firstNull]
  | cons m ms ih =>
    cases m with
    | none => simp [Method.firstNull]
    | some method =>
      have hfirst : Invocation.firstNull owner method.name 0 method.invocations = none ↔ method.Complete :=
        Invocation.firstNull_eq_none_iff
      unfold Method.firstNull
      cases hnull : Invocation.firstNull owner method.name 0 method.invocations with
      | none => simp [ih, hfirst.1 hnull]
      | some e =>
        have hincomplete : ¬ method.Complete := by simp [← hfirst, hnull]
        simp [hincomplete]

theorem TypeDecl.firstNull_eq_none_iff {k : Nat} {ts : List (Option TypeDecl)} :
    TypeDecl.firstNull k ts = none ↔ ∀ t ∈ ts, ∃ decl, t = some decl ∧ decl.Complete := by
  induction ts generalizing k with
  | nil => simp [TypeDecl.firstNull]
  | cons t ts ih =>
    cases t with
    | none => simp [TypeDecl.firstNull]
    | some decl =>
      have hfirst : Method.firstNull decl.name 0 decl.methods = none ↔ decl.Complete :=
        Method.firstNull_eq_none_iff
      unfold TypeDecl.firstNull
      cases hnull : Method.firstNull decl.name 0 decl.methods with
      | none => simp [ih, hfirst.1 hnull]
      | some e =>
        have hincomplete : ¬ decl.Complete := by simp [← hfirst, hnull]
        simp [hincomplete]

/-- **The check passes exactly the complete models.** -/
theorem Project.check_eq_ok_iff {p : Project} : p.check = .ok () ↔ p.Complete := by
  have hfirst : TypeDecl.firstNull 0 p.typeList = none ↔ p.Complete := TypeDecl.firstNull_eq_none_iff
  rw [← hfirst, Project.check]
  cases TypeDecl.firstNull 0 p.typeList with
  | none => simp
  | some e => simp

/-! ## 2. Normalised models -/

theorem TypeRef.normalise_normalise (r : TypeRef) : r.normalise.normalise = r.normalise := by
  unfold TypeRef.normalise
  by_cases hvoid : r.name = voidType
  · simp [hvoid]
  · simp [hvoid]

theorem Receiver.normalise_normalise (r : Receiver) : r.normalise.normalise = r.normalise := by
  have href : TypeRef.normalise ∘ TypeRef.normalise = TypeRef.normalise :=
    funext TypeRef.normalise_normalise
  simp [Receiver.normalise, Option.map_map, href]

theorem Invocation.normalise_normalise (i : Invocation) : i.normalise.normalise = i.normalise := by
  simp [Invocation.normalise, Receiver.normalise_normalise]

theorem Method.normalise_normalise (lister : Name) (m : Method) :
    (m.normalise lister).normalise lister = m.normalise lister := by
  have hinvocation : Invocation.normalise ∘ Invocation.normalise = Invocation.normalise :=
    funext Invocation.normalise_normalise
  by_cases howner : m.owner = []
  · by_cases hlister : lister = []
    · simp [Method.normalise, howner, hlister, hinvocation]
    · simp [Method.normalise, howner, hlister, hinvocation]
  · simp [Method.normalise, howner, hinvocation]

theorem TypeDecl.normalise_normalise (t : TypeDecl) : t.normalise.normalise = t.normalise := by
  have hmethod : Method.normalise t.name ∘ Method.normalise t.name = Method.normalise t.name :=
    funext (Method.normalise_normalise t.name)
  simp [TypeDecl.normalise, hmethod]

/-- **A normalised model is a fixed point of normalising.** -/
theorem Project.normalise_normalise (p : Project) : p.normalise.normalise = p.normalise := by
  have htype : TypeDecl.normalise ∘ TypeDecl.normalise = TypeDecl.normalise :=
    funext TypeDecl.normalise_normalise
  cases htypes : p.types with
  | none => simp [Project.normalise, htypes]
  | some ts => simp [Project.normalise, htypes, htype]

theorem Project.typeList_normalise (p : Project) :
    p.normalise.typeList = p.typeList.map (Option.map TypeDecl.normalise) := by
  unfold Project.normalise Project.typeList
  cases p.types with
  | none => rfl
  | some ts => rfl

theorem Method.Complete.normalise {m : Method} (hm : m.Complete) (lister : Name) :
    (m.normalise lister).Complete := by
  intro i hi
  obtain ⟨old, hold, rfl⟩ := List.mem_map.1 hi
  obtain ⟨invocation, rfl⟩ := hm old hold
  exact ⟨invocation.normalise, rfl⟩

theorem TypeDecl.Complete.normalise {t : TypeDecl} (ht : t.Complete) : t.normalise.Complete := by
  intro m hm
  obtain ⟨old, hold, rfl⟩ := List.mem_map.1 hm
  obtain ⟨method, rfl, hmethod⟩ := ht old hold
  exact ⟨method.normalise t.name, rfl, hmethod.normalise t.name⟩

theorem Project.Complete.normalise {p : Project} (hp : p.Complete) : p.normalise.Complete := by
  intro t ht
  rw [Project.typeList_normalise] at ht
  obtain ⟨old, hold, rfl⟩ := List.mem_map.1 ht
  obtain ⟨decl, rfl, hdecl⟩ := hp old hold
  exact ⟨decl.normalise, rfl, hdecl.normalise⟩

/-! ## 3. Decoding -/

/-- **A decoded model is what the document says, complete and normalised.** -/
theorem Project.decode_eq_ok_iff {bytes : List UInt8} {ext : String} {p : Project} :
    Project.decode bytes ext = .ok p ↔
      ∃ q, Project.parse bytes ext = .ok q ∧ q.Complete ∧ p = q.normalise := by
  unfold Project.decode
  cases Project.parse bytes ext with
  | error e => simp
  | ok q =>
    simp only [Except.ok.injEq, exists_eq_left']
    rw [← Project.check_eq_ok_iff, Project.normalise?]
    cases q.check with
    | error e => simp [Except.mapError]
    | ok u => simp [Except.mapError, eq_comm]

/-! ## 4. What a complete model lists -/

theorem exists_map_some {α : Type} {l : List (Option α)} (h : ∀ a ∈ l, ∃ b, a = some b) :
    ∃ bs : List α, l = bs.map some := by
  induction l with
  | nil => exact ⟨[], rfl⟩
  | cons a l ih =>
    obtain ⟨b, rfl⟩ := h a List.mem_cons_self
    obtain ⟨bs, rfl⟩ := ih fun c hc => h c (List.mem_cons_of_mem _ hc)
    exact ⟨b :: bs, rfl⟩

theorem Project.mem_methods {p : Project} {m : Option Method} :
    m ∈ p.methods ↔ ∃ decl, some decl ∈ p.typeList ∧ m ∈ decl.methods := by
  rw [Project.methods, List.mem_flatMap]
  constructor
  · rintro ⟨t, ht, hm⟩
    cases t with
    | none => cases hm
    | some decl => exact ⟨decl, ht, hm⟩
  · rintro ⟨decl, ht, hm⟩
    exact ⟨some decl, ht, hm⟩

/-- **The types and methods of a complete model are lists without gaps.** -/
theorem Project.Complete.exists_lists {p : Project} (hp : p.Complete) :
    ∃ (types : List TypeDecl) (methods : List Method),
      p.typeList = types.map some ∧ p.methods = methods.map some ∧
        ∀ method ∈ methods, method.Complete := by
  obtain ⟨types, htypes⟩ := exists_map_some fun t ht => (hp t ht).imp fun _ h => h.1
  have hmethod : ∀ m ∈ p.methods, ∃ method, m = some method ∧ method.Complete := by
    intro m hm
    obtain ⟨decl, hdecl, hm⟩ := Project.mem_methods.1 hm
    obtain ⟨decl', hdecl', hcomplete⟩ := hp _ hdecl
    cases hdecl'
    exact hcomplete m hm
  obtain ⟨methods, hmethods⟩ := exists_map_some fun m hm => (hmethod m hm).imp fun _ h => h.1
  refine ⟨types, methods, htypes, hmethods, ?_⟩
  intro method hmem
  obtain ⟨method', heq, hcomplete⟩ := hmethod (some method) (by simpa [hmethods] using hmem)
  cases heq
  exact hcomplete

end CallCoupling
