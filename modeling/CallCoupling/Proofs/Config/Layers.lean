import Mathlib.Data.List.Basic
import Mathlib.Data.List.Induction
import Mathlib.Data.List.Nodup
import Mathlib.Data.List.Pairwise
import CallCoupling.Config.Load

/-!
# Layers of settings

Layers lie over each other key by key: a key of the upper layer hides that key of the lower one and nothing
else (`Setting.IsLayer.at?_covering`).  A layer made of values under plain names holds the last value of
each name (`Config.at?_layer`).

Groups are the exception, since they merge.  No setting of the configuration is a group, so the lemmas ask
for a value that is none (`Setting.Plain`) on one of the two sides.
-/

set_option autoImplicit false

namespace CallCoupling

namespace Setting

/-! ## 1. Fields by name -/

theorem find?_cons (k : String) (v : Setting) (rest : List (String × Setting)) (key : String) :
    find? ((k, v) :: rest) key = if k = key then some v else find? rest key := by
  by_cases h : k = key <;> simp [find?, h]

theorem find?_append (upper lower : List (String × Setting)) (key : String) :
    find? (upper ++ lower) key = (find? upper key).or (find? lower key) := by
  simp [find?, List.find?_append, Option.map_or]

theorem find?_eq_none {fields : List (String × Setting)} {key : String} :
    find? fields key = none ↔ key ∉ fields.map (·.1) := by
  simp only [find?, Option.map_eq_none_iff, List.find?_eq_none, List.mem_map, decide_eq_true_eq, not_exists,
    not_and]

theorem mem_keys_of_find? {fields : List (String × Setting)} {key : String} {v : Setting}
    (h : find? fields key = some v) : key ∈ fields.map (·.1) := by
  by_contra hkey
  simp [find?_eq_none.2 hkey] at h

theorem mem_of_find? {fields : List (String × Setting)} {key : String} {v : Setting}
    (h : find? fields key = some v) : (key, v) ∈ fields := by
  obtain ⟨⟨k, w⟩, hfind, rfl⟩ := Option.map_eq_some_iff.1 h
  obtain rfl : k = key := by simpa using List.find?_some hfind
  exact List.mem_of_find?_eq_some hfind

theorem find?_set (k : String) (v : Setting) (fields : List (String × Setting)) (key : String) :
    find? (set k v fields) key = if k = key then some v else find? fields key := by
  induction fields with
  | nil => exact find?_cons k v [] key
  | cons field rest ih =>
    obtain ⟨k', w⟩ := field
    by_cases hk : k' = k
    · subst hk
      by_cases h : k' = key <;> simp [set, find?_cons, h]
    · simp only [set, hk, if_false, find?_cons, ih]
      by_cases h : k' = key
      · have hkey : k ≠ key := fun h' => hk (h.trans h'.symm)
        simp [h, hkey]
      · simp [h]

theorem keys_set {k : String} {fields : List (String × Setting)} (h : k ∈ fields.map (·.1)) (v : Setting) :
    (set k v fields).map (·.1) = fields.map (·.1) := by
  induction fields with
  | nil => simp at h
  | cons field rest ih =>
    obtain ⟨k', w⟩ := field
    by_cases hk : k' = k
    · simp [set, hk]
    · have hrest : k ∈ rest.map (·.1) := by simpa [Ne.symm hk] using h
      simp [set, hk, ih hrest]

/-- The setting of a key in a layer. -/
def at? (s : Setting) (key : String) : Option Setting :=
  match s with
  | .group fields => find? fields key
  | _ => none

@[simp] theorem at?_group (fields : List (String × Setting)) (key : String) :
    (group fields).at? key = find? fields key := rfl

/-- A layer holds each key of it under a name of its own. -/
theorem holds_of_at? {s v : Setting} {key : String} (h : s.at? key = some v) : s.holds key := by
  have mem_names (name : String) (v : Setting) : name ∈ names name v := by cases v <;> simp [names]
  cases s with
  | group fields =>
    induction fields with
    | nil => simp [find?] at h
    | cons field rest ih =>
      obtain ⟨k, w⟩ := field
      simp only [at?_group, find?_cons] at h
      by_cases hk : k = key
      · simp [holds, fieldNames, hk, mem_names]
      · simp only [holds, fieldNames, List.contains_eq_mem, List.mem_append, decide_eq_true_eq]
        exact .inr (by simpa [holds] using ih (by simpa [hk] using h))
  | _ => simp [at?] at h

/-! ## 2. One layer over another -/

/-- The setting is a value and no group. -/
def Plain : Setting → Prop
  | .group _ => False
  | _ => True

theorem Plain.covering {v : Setting} (h : v.Plain) (w : Setting) : v.covering w = v := by
  cases v with
  | group fields => exact h.elim
  | _ => simp [Setting.covering]

theorem Plain.covered {w : Setting} (h : w.Plain) (v : Setting) : v.covering w = v := by
  cases w with
  | group fields => exact h.elim
  | _ => cases v <;> simp [Setting.covering]

/-- The setting is a group with every key once. -/
def IsLayer : Setting → Prop
  | .group fields => (fields.map (·.1)).Nodup
  | _ => False

theorem IsLayer.exists_fields {s : Setting} (h : s.IsLayer) :
    ∃ fields, s = .group fields ∧ (fields.map (·.1)).Nodup := by
  cases s with
  | group fields => exact ⟨fields, rfl, h⟩
  | _ => exact h.elim

theorem isLayer_single (key : String) (v : Setting) : (group [(key, v)]).IsLayer := by
  simp [IsLayer]

/-- The fields below after one field has been laid over them. -/
def overField (k : String) (v : Setting) (lower : List (String × Setting)) : List (String × Setting) :=
  match find? lower k with
  | some w => set k (v.covering w) lower
  | none => lower ++ [(k, v)]

theorem overFields_cons (k : String) (v : Setting) (upper lower : List (String × Setting)) :
    overFields ((k, v) :: upper) lower = overFields upper (overField k v lower) := by
  rw [overFields]
  rfl

theorem find?_overField (k : String) (v : Setting) (lower : List (String × Setting)) (key : String) :
    find? (overField k v lower) key =
      if k = key then some ((find? lower key).elim v v.covering) else find? lower key := by
  by_cases hk : k = key
  · subst hk
    cases hw : find? lower k with
    | none => simp [overField, hw, find?_append, find?_cons]
    | some w => simp [overField, hw, find?_set]
  · cases hw : find? lower k with
    | none =>
      rw [overField, hw, find?_append, find?_cons, if_neg hk, if_neg hk]
      exact Option.or_none
    | some w => simp [overField, hw, find?_set, hk]

theorem keys_overField_nodup {lower : List (String × Setting)} (h : (lower.map (·.1)).Nodup) (k : String)
    (v : Setting) : ((overField k v lower).map (·.1)).Nodup := by
  cases hw : find? lower k with
  | none =>
    have hk := find?_eq_none.1 hw
    simpa [overField, hw] using h.concat hk
  | some w => simpa [overField, hw, keys_set (mem_keys_of_find? hw)] using h

/-- Where upper and lower layer both have a key, the upper value covers the lower one; else the one that is
there stays. -/
theorem find?_overFields {upper : List (String × Setting)} (h : (upper.map (·.1)).Nodup)
    (lower : List (String × Setting)) (key : String) :
    find? (overFields upper lower) key =
      match find? upper key with
      | some v => some ((find? lower key).elim v v.covering)
      | none => find? lower key := by
  induction upper generalizing lower with
  | nil => simp [overFields, find?]
  | cons field rest ih =>
    obtain ⟨k, v⟩ := field
    obtain ⟨hk, hrest⟩ := List.nodup_cons.1 h
    rw [overFields_cons, ih hrest, find?_cons, find?_overField]
    by_cases hkey : k = key
    · subst hkey
      -- no later field of the upper layer has this key
      simp [find?_eq_none.2 hk]
    · simp [hkey]

theorem keys_overFields_nodup {upper lower : List (String × Setting)} (h : (lower.map (·.1)).Nodup) :
    ((overFields upper lower).map (·.1)).Nodup := by
  induction upper generalizing lower with
  | nil => simpa [overFields] using h
  | cons field rest ih =>
    rw [overFields_cons]
    exact ih (keys_overField_nodup h _ _)

theorem IsLayer.covering {upper lower : Setting} (hu : upper.IsLayer) (hl : lower.IsLayer) :
    (upper.covering lower).IsLayer := by
  obtain ⟨above, rfl, -⟩ := hu.exists_fields
  obtain ⟨below, rfl, h⟩ := hl.exists_fields
  simpa [Setting.covering, IsLayer] using keys_overFields_nodup h

/-- Key by key, the upper layer hides the lower one. -/
theorem IsLayer.at?_covering {upper lower : Setting} {key : String} (hu : upper.IsLayer) (hl : lower.IsLayer)
    (hplain : ∀ v w, upper.at? key = some v → lower.at? key = some w → v.Plain ∨ w.Plain) :
    (upper.covering lower).at? key = (upper.at? key).or (lower.at? key) := by
  obtain ⟨above, rfl, h⟩ := hu.exists_fields
  obtain ⟨below, rfl, -⟩ := hl.exists_fields
  simp only [Setting.covering, at?_group, find?_overFields h] at hplain ⊢
  cases hv : find? above key with
  | none => rfl
  | some v =>
    cases hw : find? below key with
    | none => rfl
    | some w =>
      obtain hv | hw := hplain v w hv hw
      · simp [hv.covering]
      · simp [hw.covered]

end Setting

/-! ## 3. A layer from values under names -/

theorem Text.splitOn_of_not_mem {sep : Char} {s : List Char} (h : sep ∉ s) : Text.splitOn sep s = [s] := by
  induction s with
  | nil => rfl
  | cons c cs ih =>
    obtain ⟨hc, hcs⟩ : sep ≠ c ∧ sep ∉ cs := by simpa using h
    rw [Text.splitOn, if_neg hc.symm, ih hcs]

namespace Config

open Setting

/-- A name without a dot has one part. -/
theorem parts_of_undotted {name : String} (h : '.' ∉ name.toList) : parts name = [name] := by
  simp [parts, Text.splitOn_of_not_mem h]

/-- The values stand under names without dots, and none is a group. -/
def Flat (values : List (String × Setting)) : Prop :=
  ∀ name v, (name, v) ∈ values → '.' ∉ name.toList ∧ v.Plain

/-- Values under names without dots are laid over each other as they come. -/
theorem layer_eq_foldl {values : List (String × Setting)} (h : Flat values) :
    layer values = values.foldl (fun base p => (group [p]).covering base) (.group []) := by
  have hparts : ∀ p ∈ values, parts p.1 = [p.1] := fun p hp => parts_of_undotted (h p.1 p.2 hp).1
  have hsorted : values.mergeSort (fun a b => (parts b.1).length ≤ (parts a.1).length) = values := by
    refine List.mergeSort_of_pairwise (List.pairwise_of_forall_mem_list fun a ha b hb => ?_)
    simp [hparts a ha, hparts b hb]
  rw [layer, hsorted]
  refine List.foldl_ext _ _ _ fun base p hp => ?_
  obtain ⟨name, v⟩ := p
  simp [hparts (name, v) hp, nested]

theorem isLayer_layer {values : List (String × Setting)} (h : Flat values) : (layer values).IsLayer := by
  rw [layer_eq_foldl h]
  clear h
  induction values using List.reverseRecOn with
  | nil => simp [IsLayer]
  | append_singleton values p ih =>
    rw [List.foldl_concat]
    exact (isLayer_single p.1 p.2).covering ih

/-- The last value of a name is the one in the layer. -/
theorem at?_layer {values : List (String × Setting)} (h : Flat values) (key : String) :
    (layer values).at? key = find? values.reverse key := by
  have hlayer := isLayer_layer h
  rw [layer_eq_foldl h] at hlayer ⊢
  induction values using List.reverseRecOn with
  | nil => rfl
  | append_singleton values p ih =>
    obtain ⟨name, v⟩ := p
    have hinit : Flat values := fun n w hmem => h n w (List.mem_append_left _ hmem)
    have hbase := isLayer_layer hinit
    rw [layer_eq_foldl hinit] at hbase
    have hv : v.Plain := (h name v (by simp)).2
    rw [List.foldl_concat, (isLayer_single name v).at?_covering hbase, ih hinit hbase, List.reverse_concat,
      find?_cons, at?_group, find?_cons]
    · by_cases hname : name = key <;> simp [hname, find?]
    · intro w _ hw _
      obtain ⟨rfl, rfl⟩ : name = key ∧ v = w := by simpa [find?] using hw
      exact .inl hv

theorem plain_of_layer {values : List (String × Setting)} (h : Flat values) {key : String} {v : Setting}
    (hv : (layer values).at? key = some v) : v.Plain := by
  rw [at?_layer h] at hv
  exact (h key v (List.mem_reverse.1 (mem_of_find? hv))).2

end Config

end CallCoupling
