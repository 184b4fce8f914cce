import CallCoupling.Proofs.Model.Normal

/-!
# The first null entry, and what normalising touches

An entry of a model is found by a path: the place of its type, then the place of its method in that type, then
the place of its invocation. Paths in lexicographic order are the order in which a document lists its entries,
an entry before those inside it. `Project.NullAt` says which paths lead to a null entry; the check names the
least of them (`Project.check_names_first`).

The check is three searches inside each other, and all three are one search: the first item of a list that is
null or has something null in it. `Finds` says what such a search is to answer, and `finds_nullIn` that it does
if the searches inside do.

That the check reads no field of a null entry is shown by a second form of it (`Project.readingCheck?`), which
has to have an entry before it reads a field and answers `none` if it has not.
-/

set_option autoImplicit false

namespace CallCoupling

/-- The entry at the path is null; with the error that is to name it, and its kind, its place and the names of its
    owners as text. -/
inductive Project.NullAt (p : Project) : List Nat → NullEntry → Loose → Prop
  | type {i : Nat} (htype : p.typeList[i]? = some none) :
    p.NullAt [i] (.type i) ("type " ++ toString i)
  | method {i j : Nat} {t : TypeDecl} (htype : p.typeList[i]? = some (some t))
      (hmethod : t.methods[j]? = some none) :
    p.NullAt [i, j] (.method j t.name) (Loose.join ["method " ++ toString j ++ " of ", t.name])
  | invocation {i j k : Nat} {t : TypeDecl} {m : Method} (htype : p.typeList[i]? = some (some t))
      (hmethod : t.methods[j]? = some (some m)) (hinvocation : m.invocations[k]? = some none) :
    p.NullAt [i, j, k] (.invocation k t.name m.name)
      (Loose.join ["invocation " ++ toString k ++ " of ", t.name, ".", m.name])

/-! ## 1. Searching a list for what is null in it -/

/-- What a search is to answer: the null entry with the least path, or nothing if there is none. -/
def Finds (null : List Nat → NullEntry → Prop) : Option NullEntry → Prop
  | none => ∀ path e, ¬ null path e
  | some e => ∃ path, null path e ∧ ∀ other e', null other e' → path ≤ other

/-- What is null in a list: an item of it, or something inside an item. -/
inductive NullIn {α : Type} (own : Nat → NullEntry) (inside : α → List Nat → NullEntry → Prop)
    (l : List (Option α)) : List Nat → NullEntry → Prop
  | item {i : Nat} (hi : l[i]? = some none) : NullIn own inside l [i] (own i)
  | within {i : Nat} {a : α} {path : List Nat} {e : NullEntry} (hi : l[i]? = some (some a))
      (hpath : inside a path e) : NullIn own inside l (i :: path) e

/-- The error for one item. -/
def nullOf {α : Type} (own : Nat → NullEntry) (search : α → Option NullEntry) :
    Option α × Nat → Option NullEntry
  | (none, i) => some (own i)
  | (some a, _) => search a

theorem findSome?_zipIdx_cases {α β : Type} (l : List α) (f : α × Nat → Option β) :
    (l.zipIdx.findSome? f = none ∧ ∀ (i : Nat) (a : α), l[i]? = some a → f (a, i) = none) ∨
      ∃ i a b, l.zipIdx.findSome? f = some b ∧ l[i]? = some a ∧ f (a, i) = some b ∧
        ∀ (j : Nat) (c : α), j < i → l[j]? = some c → f (c, j) = none := by
  cases hfind : l.zipIdx.findSome? f with
  | none =>
    left
    refine ⟨rfl, ?_⟩
    intro i a hi
    exact List.findSome?_eq_none_iff.1 hfind _ (List.mk_mem_zipIdx_iff_getElem?.2 hi)
  | some b =>
    right
    obtain ⟨before, ⟨a, i⟩, after, hsplit, hb, hbefore⟩ := List.findSome?_eq_some_iff.1 hfind
    -- An item of the list with places stands at the place it names.
    have hplace : ∀ (j : Nat) (x : α × Nat), (before ++ (a, i) :: after)[j]? = some x →
        l[j]? = some x.1 ∧ x.2 = j := by
      rintro j ⟨c, k⟩ hj
      rw [← hsplit, List.getElem?_zipIdx, Option.map_eq_some_iff] at hj
      obtain ⟨c', hc, heq⟩ := hj
      cases heq
      exact ⟨hc, Nat.zero_add j⟩
    obtain ⟨hi, rfl⟩ := hplace before.length (a, i) (by simp)
    refine ⟨before.length, a, b, rfl, hi, hb, ?_⟩
    intro j c hj hc
    have hitem : (before ++ (a, before.length) :: after)[j]? = some before[j] := by
      rw [List.getElem?_append_left hj, List.getElem?_eq_getElem hj]
    obtain ⟨hc', hj'⟩ := hplace j _ hitem
    have heq : before[j] = (c, j) := Prod.ext (Option.some.inj (hc'.symm.trans hc)) hj'
    exact hbefore (c, j) (heq ▸ List.getElem_mem hj)

/-- **A search finds the first null entry if the searches inside do.** -/
theorem finds_nullIn {α : Type} {own : Nat → NullEntry} {inside : α → List Nat → NullEntry → Prop}
    {search : α → Option NullEntry} (hsearch : ∀ a, Finds (inside a) (search a)) (l : List (Option α)) :
    Finds (NullIn own inside l) (l.zipIdx.findSome? (nullOf own search)) := by
  -- An item for which nothing is found has nothing null in it.
  have hclean : ∀ {a : α}, search a = none → ∀ path e, ¬ inside a path e := by
    intro a hnone path e hpath
    have hfinds := hsearch a
    rw [hnone] at hfinds
    exact hfinds path e hpath
  rcases findSome?_zipIdx_cases l (nullOf own search) with ⟨hnone, hall⟩ | ⟨i, a, e, hsome, hi, he, hbefore⟩
  · rw [hnone]
    intro path e hnull
    cases hnull with
    | item hi => cases hall _ none hi
    | within hi hpath => exact hclean (hall _ _ hi) _ _ hpath
  · rw [hsome]
    -- What comes before the item is clean, so every path to a null entry starts with its place or a later one.
    have hlater : ∀ other e', NullIn own inside l other e' → ∃ j rest, other = j :: rest ∧ i ≤ j := by
      intro other e' hnull
      cases hnull with
      | @item j hj =>
        refine ⟨j, [], rfl, Nat.le_of_not_lt fun hlt => ?_⟩
        cases hbefore j none hlt hj
      | @within j b rest _ hj hpath =>
        refine ⟨j, rest, rfl, Nat.le_of_not_lt fun hlt => ?_⟩
        exact hclean (hbefore j (some b) hlt hj) _ _ hpath
    cases a with
    | none =>
      cases he
      refine ⟨[i], .item hi, ?_⟩
      intro other e' hnull
      obtain ⟨j, rest, rfl, hij⟩ := hlater other e' hnull
      rcases Nat.lt_or_eq_of_le hij with hlt | rfl
      · exact le_of_lt (List.Lex.rel hlt)
      · exact List.cons_le_cons i (not_lt.1 (List.not_lt_nil rest))
    | some a =>
      have hfinds := hsearch a
      rw [show search a = some e from he] at hfinds
      obtain ⟨path, hpath, hleast⟩ := hfinds
      refine ⟨i :: path, .within hi hpath, ?_⟩
      intro other e' hnull
      obtain ⟨j, rest, rfl, hij⟩ := hlater other e' hnull
      rcases Nat.lt_or_eq_of_le hij with hlt | rfl
      · exact le_of_lt (List.Lex.rel hlt)
      · refine List.cons_le_cons i ?_
        cases hnull with
        | item hi' =>
          rw [hi] at hi'
          cases hi'
        | within hi' hpath' =>
          rw [hi] at hi'
          cases hi'
          exact hleast rest e' hpath'

/-! ## 2. The three searches of the check -/

def Method.nulls (owner : Name) (m : Method) : List Nat → NullEntry → Prop :=
  NullIn (.invocation · owner m.name) (fun _ _ _ => False) m.invocations

def TypeDecl.nulls (t : TypeDecl) : List Nat → NullEntry → Prop :=
  NullIn (.method · t.name) (Method.nulls t.name) t.methods

def Project.nulls (p : Project) : List Nat → NullEntry → Prop := NullIn .type TypeDecl.nulls p.typeList

theorem findSome?_nullOf_some {α : Type} (own : Nat → NullEntry) (search : α → Option NullEntry) (a : α)
    (i : Nat) (rest : List (Option α × Nat)) :
    ((some a, i) :: rest).findSome? (nullOf own search) = (search a).or (rest.findSome? (nullOf own search)) := by
  rw [List.findSome?_cons, nullOf]
  cases search a <;> rfl

theorem Invocation.firstNull_eq (owner method : Name) (k : Nat) (is : List (Option Invocation)) :
    Invocation.firstNull owner method k is =
      (is.zipIdx k).findSome? (nullOf (.invocation · owner method) fun _ => none) := by
  induction is generalizing k with
  | nil => rfl
  | cons i is ih =>
    cases i with
    | none => rfl
    | some i => exact ih (k + 1)

theorem Method.firstNull_eq (owner : Name) (j : Nat) (ms : List (Option Method)) :
    Method.firstNull owner j ms = (ms.zipIdx j).findSome?
      (nullOf (.method · owner) fun m => Invocation.firstNull owner m.name 0 m.invocations) := by
  induction ms generalizing j with
  | nil => rfl
  | cons m ms ih =>
    cases m with
    | none => rfl
    | some m =>
      rw [Method.firstNull, List.zipIdx_cons, findSome?_nullOf_some, ih]
      cases Invocation.firstNull owner m.name 0 m.invocations <;> rfl

theorem TypeDecl.firstNull_eq (i : Nat) (ts : List (Option TypeDecl)) :
    TypeDecl.firstNull i ts = (ts.zipIdx i).findSome?
      (nullOf .type fun t => Method.firstNull t.name 0 t.methods) := by
  induction ts generalizing i with
  | nil => rfl
  | cons t ts ih =>
    cases t with
    | none => rfl
    | some t =>
      rw [TypeDecl.firstNull, List.zipIdx_cons, findSome?_nullOf_some, ih]
      cases Method.firstNull t.name 0 t.methods <;> rfl

theorem Project.finds_firstNull (p : Project) : Finds p.nulls (TypeDecl.firstNull 0 p.typeList) := by
  rw [TypeDecl.firstNull_eq]
  refine finds_nullIn (fun t => ?_) p.typeList
  rw [Method.firstNull_eq]
  refine finds_nullIn (fun m => ?_) t.methods
  rw [Invocation.firstNull_eq]
  exact finds_nullIn (fun _ _ _ => id) m.invocations

theorem Project.nulls_iff {p : Project} {path : List Nat} {e : NullEntry} :
    p.nulls path e ↔ ∃ text, p.NullAt path e text := by
  constructor
  · intro hnull
    cases hnull with
    | item ht => exact ⟨_, .type ht⟩
    | within ht hnull =>
      cases hnull with
      | item hm => exact ⟨_, .method ht hm⟩
      | within hm hnull =>
        cases hnull with
        | item hi => exact ⟨_, .invocation ht hm hi⟩
        | within hi hnull => exact hnull.elim
  · rintro ⟨text, hnull⟩
    cases hnull with
    | type ht => exact .item ht
    | method ht hm => exact .within ht (.item hm)
    | invocation ht hm hi => exact .within ht (.within hm (.item hi))

/-- A path leads to one entry. -/
theorem Project.NullAt.unique {p : Project} {path : List Nat} {e e' : NullEntry} {text text' : Loose}
    (h : p.NullAt path e text) (h' : p.NullAt path e' text') : e = e' := by
  cases h with
  | type ht => cases h'; rfl
  | method ht hm =>
    cases h' with
    | method ht' hm' =>
      rw [ht] at ht'
      cases ht'
      rfl
  | invocation ht hm hi =>
    cases h' with
    | invocation ht' hm' hi' =>
      rw [ht] at ht'
      cases ht'
      rw [hm] at hm'
      cases hm'
      rfl

theorem Project.NullAt.failure {p : Project} {path : List Nat} {e : NullEntry} {text : Loose}
    (h : p.NullAt path e text) :
    e.failure = ⟨.malformedModel, Loose.join ["malformed model: ", text, " is null"]⟩ := by
  cases h <;> simp [NullEntry.failure, NullEntry.message, Loose.join, Loose.ofString]

/-- **The check passes a model without null entries, or fails with the first one.** -/
theorem Project.check_cases (p : Project) :
    (p.check = .ok () ∧ ∀ path e text, ¬ p.NullAt path e text) ∨
      ∃ path e text, p.check = .error e ∧ p.NullAt path e text ∧
        ∀ other e' text', p.NullAt other e' text' → path ≤ other := by
  have hfinds := p.finds_firstNull
  unfold Project.check
  cases hfirst : TypeDecl.firstNull 0 p.typeList with
  | none =>
    rw [hfirst] at hfinds
    refine Or.inl ⟨rfl, ?_⟩
    intro path e text hnull
    exact hfinds path e (Project.nulls_iff.2 ⟨text, hnull⟩)
  | some e =>
    rw [hfirst] at hfinds
    obtain ⟨path, hnull, hleast⟩ := hfinds
    obtain ⟨text, hnull⟩ := Project.nulls_iff.1 hnull
    refine Or.inr ⟨path, e, text, rfl, hnull, ?_⟩
    intro other e' text' hother
    exact hleast other e' (Project.nulls_iff.2 ⟨text', hother⟩)

theorem Project.check_fails_iff (p : Project) :
    (∃ e, p.check = .error e) ↔ ∃ path e text, p.NullAt path e text := by
  rcases p.check_cases with ⟨hok, hclean⟩ | ⟨path, e, text, herror, hnull, -⟩
  · rw [hok]
    constructor
    · nofun
    · rintro ⟨path, e, text, hnull⟩
      exact absurd hnull (hclean path e text)
  · exact ⟨fun _ => ⟨path, e, text, hnull⟩, fun _ => ⟨e, herror⟩⟩

theorem Project.check_eq_error_iff {p : Project} {e : NullEntry} :
    p.check = .error e ↔
      ∃ path text, p.NullAt path e text ∧ ∀ other e' text', p.NullAt other e' text' → path ≤ other := by
  rcases p.check_cases with ⟨hok, hclean⟩ | ⟨path, found, text, herror, hnull, hleast⟩
  · rw [hok]
    constructor
    · nofun
    · rintro ⟨path, text, hnull, -⟩
      exact absurd hnull (hclean path e text)
  · rw [herror]
    constructor
    · intro he
      cases he
      exact ⟨path, text, hnull, hleast⟩
    · -- Of two paths that are least each is least, so they are one, and it leads to one entry.
      rintro ⟨path', text', hnull', hleast'⟩
      obtain rfl : path = path' := le_antisymm (hleast _ _ _ hnull') (hleast' _ _ _ hnull)
      rw [hnull.unique hnull']

/-! ## 3. The check reads what is there -/

/-- The search for a null invocation. The type and the method are read for their names. -/
def Invocation.readNull? (t : Option TypeDecl) (m : Option Method) (k : Nat) :
    List (Option Invocation) → Option (Option NullEntry)
  | [] => some none
  | i :: rest =>
    if i.isNone then do
      let t ← t
      let m ← m
      some (some (.invocation k t.name m.name))
    else readNull? t m (k + 1) rest

def Method.readNull? (t : Option TypeDecl) (j : Nat) : List (Option Method) → Option (Option NullEntry)
  | [] => some none
  | m :: rest =>
    if m.isNone then do
      let t ← t
      some (some (.method j t.name))
    else do
      let invocations ← m.map Method.invocations
      match ← Invocation.readNull? t m 0 invocations with
      | some e => some (some e)
      | none => readNull? t (j + 1) rest

def TypeDecl.readNull? (i : Nat) : List (Option TypeDecl) → Option (Option NullEntry)
  | [] => some none
  | t :: rest =>
    if t.isNone then some (some (.type i))
    else do
      let methods ← t.map TypeDecl.methods
      match ← Method.readNull? t 0 methods with
      | some e => some (some e)
      | none => readNull? (i + 1) rest

/-- The check, with every entry there before a field of it is read. -/
def Project.readingCheck? (p : Project) : Option (Except NullEntry Unit) :=
  (TypeDecl.readNull? 0 p.typeList).map fun
    | some e => .error e
    | none => .ok ()

theorem Invocation.readNull?_eq (t : TypeDecl) (m : Method) (k : Nat) (is : List (Option Invocation)) :
    Invocation.readNull? (some t) (some m) k is = some (Invocation.firstNull t.name m.name k is) := by
  induction is generalizing k with
  | nil => rfl
  | cons i is ih =>
    cases i with
    | none => rfl
    | some i => exact ih (k + 1)

theorem Method.readNull?_eq (t : TypeDecl) (j : Nat) (ms : List (Option Method)) :
    Method.readNull? (some t) j ms = some (Method.firstNull t.name j ms) := by
  induction ms generalizing j with
  | nil => rfl
  | cons m ms ih =>
    cases m with
    | none => rfl
    | some m =>
      simp only [Method.readNull?, Method.firstNull, Option.isNone_some, Bool.false_eq_true, if_false,
        Option.map_some, Option.bind_eq_bind, Option.bind_some, Invocation.readNull?_eq]
      cases Invocation.firstNull t.name m.name 0 m.invocations with
      | none => exact ih (j + 1)
      | some e => rfl

theorem TypeDecl.readNull?_eq (i : Nat) (ts : List (Option TypeDecl)) :
    TypeDecl.readNull? i ts = some (TypeDecl.firstNull i ts) := by
  induction ts generalizing i with
  | nil => rfl
  | cons t ts ih =>
    cases t with
    | none => rfl
    | some t =>
      simp only [TypeDecl.readNull?, TypeDecl.firstNull, Option.isNone_some, Bool.false_eq_true, if_false,
        Option.map_some, Option.bind_eq_bind, Option.bind_some, Method.readNull?_eq]
      cases Method.firstNull t.name 0 t.methods with
      | none => exact ih (i + 1)
      | some e => rfl

theorem Project.readingCheck?_eq (p : Project) : p.readingCheck? = some p.check := by
  cases hfirst : TypeDecl.firstNull 0 p.typeList with
  | none => simp [Project.readingCheck?, Project.check, TypeDecl.readNull?_eq, hfirst]
  | some e => simp [Project.readingCheck?, Project.check, TypeDecl.readNull?_eq, hfirst]

/-! ## 4. What normalising touches -/

/-- The same reference, but one to the void type is synthetic. -/
structure TypeRef.Marked (r r' : TypeRef) : Prop where
  name : r'.name = r.name
  void : r.name = Loose.ofString "void" → r'.synthetic = true
  other : r.name ≠ Loose.ofString "void" → r'.synthetic = r.synthetic

/-- The same invocation with marked references, given or not. -/
structure Invocation.Marked (i i' : Invocation) : Prop where
  method : i'.method = i.method
  line : i'.line = i.line
  declared : Option.Rel TypeRef.Marked i.receiver.declared i'.receiver.declared
  accessed : Option.Rel TypeRef.Marked i.receiver.accessed i'.receiver.accessed

/-- The same method with marked invocations, and with an owner if it had none. -/
structure Method.Filled (lister : Name) (m m' : Method) : Prop where
  name : m'.name = m.name
  signature : m'.signature = m.signature
  owned : m.owner ≠ [] → m'.owner = m.owner
  ownerless : m.owner = [] → m'.owner = lister
  invocations : List.Forall₂ (Option.Rel Invocation.Marked) m.invocations m'.invocations

structure TypeDecl.Filled (t t' : TypeDecl) : Prop where
  name : t'.name = t.name
  methods : List.Forall₂ (Option.Rel (Method.Filled t.name)) t.methods t'.methods

/-- **The second model is the first with owners filled in and references to the void type marked**, and with
    nothing else changed. -/
structure Project.Filled (p p' : Project) : Prop where
  name : p'.name = p.name
  types : Option.Rel (List.Forall₂ (Option.Rel TypeDecl.Filled)) p.types p'.types

/-! A relation that leaves one choice for each item leaves one choice for an optional item and for a list. -/

theorem optionRel_iff {α β : Type} {R : α → β → Prop} {f : α → β} (h : ∀ a b, R a b ↔ b = f a)
    (a : Option α) (b : Option β) : Option.Rel R a b ↔ b = a.map f := by
  cases a with
  | none => cases b <;> simp
  | some a => cases b <;> simp [h]

theorem forall₂_iff {α β : Type} {R : α → β → Prop} {f : α → β} (h : ∀ a b, R a b ↔ b = f a)
    (l : List α) (k : List β) : List.Forall₂ R l k ↔ k = l.map f := by
  induction l generalizing k with
  | nil => simp
  | cons a l ih => cases k <;> simp [h, ih]

theorem TypeRef.marked_iff (r r' : TypeRef) : r.Marked r' ↔ r' = r.normalise := by
  by_cases hvoid : r.name = voidType
  · have hmarked : r.normalise = { r with synthetic := true } := if_pos hvoid
    rw [hmarked]
    constructor
    · rintro ⟨hname, hmark, -⟩
      obtain ⟨name, synthetic⟩ := r'
      simp only at hname
      rw [hname, show synthetic = true from hmark hvoid]
    · rintro rfl
      exact ⟨rfl, fun _ => rfl, fun hne => absurd hvoid hne⟩
  · have hkept : r.normalise = r := if_neg hvoid
    rw [hkept]
    constructor
    · rintro ⟨hname, -, hkeep⟩
      obtain ⟨name, synthetic⟩ := r'
      simp only at hname
      rw [hname, show synthetic = r.synthetic from hkeep hvoid]
    · rintro rfl
      exact ⟨rfl, fun heq => absurd heq hvoid, fun _ => rfl⟩

theorem Invocation.marked_iff (i i' : Invocation) : i.Marked i' ↔ i' = i.normalise := by
  have href := optionRel_iff TypeRef.marked_iff
  constructor
  · rintro ⟨hmethod, hline, hdeclared, haccessed⟩
    obtain ⟨method, ⟨declared, accessed⟩, line⟩ := i'
    rw [href] at hdeclared haccessed
    simp only at hmethod hline hdeclared haccessed
    subst hmethod hline hdeclared haccessed
    rfl
  · rintro rfl
    exact ⟨rfl, rfl, (href _ _).2 rfl, (href _ _).2 rfl⟩

theorem Method.filled_iff (lister : Name) (m m' : Method) : m.Filled lister m' ↔ m' = m.normalise lister := by
  have hinvocations := forall₂_iff (optionRel_iff Invocation.marked_iff) m.invocations
  constructor
  · rintro ⟨hname, hsignature, howned, hownerless, hall⟩
    rw [hinvocations] at hall
    have howner : m'.owner = if m.owner.isEmpty then lister else m.owner := by
      by_cases hempty : m.owner = []
      · simp [hempty, hownerless hempty]
      · simp [hempty, howned hempty]
    obtain ⟨name, signature, owner, invocations⟩ := m'
    simp only at hname hsignature howner hall
    subst hname hsignature howner hall
    rfl
  · rintro rfl
    refine ⟨rfl, rfl, ?_, ?_, (hinvocations _).2 rfl⟩
    · intro hne
      simp [Method.normalise, hne]
    · intro hempty
      simp [Method.normalise, hempty]

theorem TypeDecl.filled_iff (t t' : TypeDecl) : t.Filled t' ↔ t' = t.normalise := by
  have hmethods := forall₂_iff (optionRel_iff (Method.filled_iff t.name)) t.methods
  constructor
  · rintro ⟨hname, hall⟩
    rw [hmethods] at hall
    obtain ⟨name, methods⟩ := t'
    simp only at hname hall
    subst hname hall
    rfl
  · rintro rfl
    exact ⟨rfl, (hmethods _).2 rfl⟩

theorem Project.filled_iff (p p' : Project) : p.Filled p' ↔ p' = p.normalise := by
  have htypes := optionRel_iff (forall₂_iff (optionRel_iff TypeDecl.filled_iff)) p.types
  constructor
  · rintro ⟨hname, hall⟩
    rw [htypes] at hall
    obtain ⟨name, types⟩ := p'
    simp only at hname hall
    subst hname hall
    rfl
  · rintro rfl
    exact ⟨rfl, (htypes _).2 rfl⟩

/-! ## 5. The two gates -/

/-- **The check fails exactly if an entry is null, and names the first one.** The error is that of a malformed
    model, also for whoever decodes a document. No field of a null entry is read. What passes is normalised by
    filling in owners and marking void references and by nothing else, and only once. -/
theorem Project.check_names_first (p : Project) :
    ((∃ e, p.check = .error e ∧ e.failure.cause = .malformedModel) ↔
        ∃ path e text, p.NullAt path e text) ∧
      (∀ e, p.check = .error e ↔
        ∃ path text, p.NullAt path e text ∧ ∀ other e' text', p.NullAt other e' text' → path ≤ other) ∧
      (∀ path e text, p.NullAt path e text →
        e.failure = ⟨.malformedModel, Loose.join ["malformed model: ", text, " is null"]⟩) ∧
      (∀ bytes ext, Project.parse bytes ext = .ok p →
        ((∃ e, Project.decode bytes ext = .error e ∧ e.failure.cause = .malformedModel) ↔
          ∃ path e text, p.NullAt path e text)) ∧
      p.readingCheck? = some p.check ∧
      (p.check = .ok () →
        (∀ p', p.Filled p' ↔ p' = p.normalise) ∧ p.normalise.normalise = p.normalise) := by
  refine ⟨?_, fun e => Project.check_eq_error_iff, fun _ _ _ hnull => hnull.failure, ?_,
    p.readingCheck?_eq, fun _ => ⟨p.filled_iff, p.normalise_normalise⟩⟩
  · rw [← p.check_fails_iff]
    exact exists_congr fun e => and_iff_left rfl
  · intro bytes ext hparse
    rw [← p.check_fails_iff, Project.decode, hparse]
    show (∃ e, p.normalise?.mapError DecodeError.nullEntry = .error e ∧ _) ↔ _
    unfold Project.normalise?
    cases p.check with
    | ok u => simp [Except.mapError]
    | error e => simp [Except.mapError, DecodeError.failure, NullEntry.failure]

end CallCoupling
