import CallCoupling.Model.Basic
import Mathlib

/-!
# Tables over names

A call graph and a coupling matrix are built on the same ground: a list of distinct names that only
grows at its end, an index that leads from a name back to its place, and further tables with one entry
per place. This file holds what both need of that ground and nothing about either of them.

Two facts carry the rest.

* `Indexes index names` says that the index is the inverse of the list: it finds the place of every
  name and finds nothing else. `Indexes.push` keeps it when a new name takes the next place.
* A table in step with the names is `names.map f` for some function `f` of *names*. Writing at one place
  is then changing `f` at one name (`modify_map`), so a proof about a table never has to speak of places.
-/

set_option autoImplicit false

namespace CallCoupling

/-! ## 1. The index of a list of names -/

/-- `index` finds the place of every one of `names`, and of nothing else. -/
def Indexes (index : List (Name × Nat)) (names : List Name) : Prop :=
  ∀ name i, index.lookup name = some i ↔ names[i]? = some name

theorem Indexes.nil : Indexes [] [] := by
  intro name i
  simp

/-- A name has one place, because the index answers with one. -/
theorem Indexes.place_unique {index : List (Name × Nat)} {names : List Name}
    (h : Indexes index names) {a : Name} {i j : Nat} (hi : names[i]? = some a)
    (hj : names[j]? = some a) : i = j := by
  have hij : some i = some j := by rw [← (h a i).mpr hi, (h a j).mpr hj]
  exact Option.some.inj hij

theorem Indexes.nodup {index : List (Name × Nat)} {names : List Name}
    (h : Indexes index names) : names.Nodup := by
  rw [List.nodup_iff_getElem?_ne_getElem?]
  intro i j hij hj heq
  obtain ⟨a, ha⟩ : ∃ a, names[j]? = some a := ⟨names[j], List.getElem?_eq_getElem hj⟩
  have : i = j := h.place_unique (heq.trans ha) ha
  omega

theorem Indexes.lookup_eq_none {index : List (Name × Nat)} {names : List Name}
    (h : Indexes index names) {a : Name} : index.lookup a = none ↔ a ∉ names := by
  constructor
  · intro hnone hmem
    obtain ⟨i, hi⟩ := List.mem_iff_getElem?.mp hmem
    rw [(h a i).mpr hi] at hnone
    cases hnone
  · intro hmem
    cases hl : index.lookup a with
    | none => rfl
    | some i => exact absurd (List.mem_of_getElem? ((h a i).mp hl)) hmem

/-- The index is a search for the first place of a name; the names being distinct, it is the only one. -/
theorem Indexes.lookup_eq_idxOf? {index : List (Name × Nat)} {names : List Name}
    (h : Indexes index names) (a : Name) : index.lookup a = names.idxOf? a := by
  cases hl : index.lookup a with
  | none => exact (List.idxOf?_eq_none_iff.mpr (h.lookup_eq_none.mp hl)).symm
  | some i =>
    have hi : names[i]? = some a := (h a i).mp hl
    obtain ⟨hlt, hget⟩ := List.getElem?_eq_some_iff.mp hi
    symm
    rw [List.idxOf?_eq_some_iff]
    refine ⟨hlt, by simp [hget], fun j hj => ?_⟩
    intro hja
    have hj' : names[j]? = some a := by
      rw [List.getElem?_eq_getElem (by omega)]
      simpa using hja
    have : j = i := h.place_unique hj' hi
    omega

theorem getElem?_concat_eq_some {α : Type} {l : List α} {a b : α} {i : Nat} :
    (l ++ [a])[i]? = some b ↔ l[i]? = some b ∨ (i = l.length ∧ b = a) := by
  rw [List.getElem?_append]
  by_cases hi : i < l.length
  · rw [if_pos hi]
    exact ⟨Or.inl, fun h => h.elim id fun h => absurd h.1 (Nat.ne_of_lt hi)⟩
  · rw [if_neg hi, List.getElem?_eq_none (Nat.le_of_not_lt hi)]
    by_cases hz : i - l.length = 0
    · have heq : i = l.length := by omega
      simp [heq, eq_comm]
    · have hne : i ≠ l.length := by omega
      simp [hz, hne]

/-- A new name takes the next place. -/
theorem Indexes.push {index : List (Name × Nat)} {names : List Name} (h : Indexes index names)
    {a : Name} (ha : a ∉ names) : Indexes ((a, names.length) :: index) (names ++ [a]) := by
  intro name i
  rw [List.lookup_cons, getElem?_concat_eq_some]
  by_cases hname : name = a
  · subst hname
    have hold : names[i]? ≠ some name := fun hget => ha (List.mem_of_getElem? hget)
    simp [hold, eq_comm]
  · have hbeq : (name == a) = false := by simpa using hname
    simp [hbeq, h name i, hname]

/-! ## 2. Names in the order of their first occurrence -/

/-- The names with one more at the end, unless it is among them. -/
def enter (names : List Name) (a : Name) : List Name := if a ∈ names then names else names ++ [a]

theorem mem_enter {names : List Name} {a b : Name} : b ∈ enter names a ↔ b = a ∨ b ∈ names := by
  unfold enter
  split
  · rename_i ha
    exact ⟨Or.inr, fun h => h.elim (fun hb => hb ▸ ha) id⟩
  · rw [List.mem_append, List.mem_singleton]
    exact Or.comm

/-- One more occurrence enters its name: `eraseDups` read from the left, the way the tables grow. -/
theorem eraseDups_concat (names : List Name) (a : Name) :
    (names ++ [a]).eraseDups = enter names.eraseDups a := by
  rw [List.eraseDups_append]
  unfold enter
  by_cases ha : a ∈ names
  · simp [List.removeAll, ha, List.mem_eraseDups]
  · simp [List.removeAll, ha, List.mem_eraseDups, List.eraseDups_cons]

theorem eraseDups_of_nodup {names : List Name} (h : names.Nodup) : names.eraseDups = names := by
  induction names using List.reverseRecOn with
  | nil => rfl
  | append_singleton names a ih =>
    rw [List.nodup_append] at h
    obtain ⟨hnames, _, hdisj⟩ := h
    have ha : a ∉ names := fun hmem => hdisj a hmem a (by simp) rfl
    rw [eraseDups_concat, ih hnames, enter, if_neg ha]

/-! ## 3. Tables in step with the names -/

/-- Writing at the place of a name changes the tabulated function at that name. -/
theorem modify_map {α : Type} {names : List Name} (hnd : names.Nodup) {a : Name} {i : Nat}
    (hi : names[i]? = some a) (f : Name → α) (k : α → α) :
    (names.map f).modify i k = names.map (Function.update f a (k (f a))) := by
  apply List.ext_getElem?
  intro j
  rw [List.getElem?_modify, List.getElem?_map, List.getElem?_map]
  cases hj : names[j]? with
  | none => rfl
  | some b =>
    by_cases hij : i = j
    · subst hij
      have hab : a = b := Option.some.inj (hi.symm.trans hj)
      simp [hab]
    · have hab : b ≠ a := by
        intro hab
        subst hab
        obtain ⟨hlt, _⟩ := List.getElem?_eq_some_iff.mp hi
        exact hij ((List.getElem?_inj hlt hnd).mp (hi.trans hj.symm))
      simp [hij, Function.update_of_ne hab]

theorem sum_indicator {names : List Name} (hnd : names.Nodup) (a : Name) :
    (names.map fun b => if a = b then 1 else 0).sum = if a ∈ names then 1 else 0 := by
  induction names with
  | nil => rfl
  | cons b rest ih =>
    obtain ⟨hb, hrest⟩ := List.nodup_cons.mp hnd
    rw [List.map_cons, List.sum_cons, ih hrest]
    by_cases hab : a = b
    · subst hab
      simp [hb]
    · simp [hab]

/-- Sorting entries by name and adding up how many each name got counts every entry once, if its name is
    among the names at all. -/
theorem sum_countP {α : Type} {names : List Name} (hnd : names.Nodup) (nameOf : α → Name)
    (entries : List α) :
    (names.map fun a => entries.countP fun e => nameOf e = a).sum =
      entries.countP fun e => nameOf e ∈ names := by
  induction entries with
  | nil => simp
  | cons e entries ih =>
    have hsplit : (names.map fun a => (e :: entries).countP fun e => nameOf e = a) =
        names.map fun a => (entries.countP fun e => nameOf e = a) + if nameOf e = a then 1 else 0 := by
      simp [List.countP_cons]
    rw [hsplit, List.sum_map_add, ih, sum_indicator hnd (nameOf e), List.countP_cons]
    simp

theorem sum_countP_eq_length {α : Type} {names : List Name} (hnd : names.Nodup) (nameOf : α → Name)
    {entries : List α} (hall : ∀ e ∈ entries, nameOf e ∈ names) :
    (names.map fun a => entries.countP fun e => nameOf e = a).sum = entries.length := by
  rw [sum_countP hnd nameOf entries, List.countP_eq_length]
  intro e he
  simpa using hall e he

end CallCoupling
