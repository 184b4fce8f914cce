import Mathlib.Data.List.Basic
import CallCoupling.Config.Toml
import CallCoupling.Proofs.Config.Layers

/-!
# The layer of a file

A settings document may set a key once only, so its settings are a layer (`Toml.isLayer_parse?`).  Every
expression of a document either changes what is under a key that is there, or adds a new key at the end
(`Toml.Extends`).
-/

set_option autoImplicit false

namespace CallCoupling.Toml

/-- The keys of items, in order. -/
def keys (fields : List (String × Item)) : List String := fields.map (·.1)

theorem keys_settings (fields : List (String × Item)) : (settings fields).map (·.1) = keys fields := by
  induction fields with
  | nil => simp [settings, keys]
  | cons field rest ih => simp [settings, keys, ih]

theorem keys_closeFields (fields : List (String × Item)) : keys (closeFields fields) = keys fields := by
  induction fields with
  | nil => simp [closeFields]
  | cons field rest ih => simpa [closeFields, keys] using ih

/-! ## 1. One expression -/

/-- The keys stay as they are, or a new one comes at their end. -/
def Extends (before after : List (String × Item)) : Prop :=
  keys after = keys before ∨ ∃ name, name ∉ keys before ∧ keys after = keys before ++ [name]

theorem Extends.nodup {before after : List (String × Item)} (h : Extends before after)
    (hkeys : (keys before).Nodup) : (keys after).Nodup := by
  obtain hsame | ⟨name, hnew, happend⟩ := h
  · rwa [hsame]
  · rw [happend, ← List.concat_eq_append]
    exact hkeys.concat hnew

theorem Extends.append {fields : List (String × Item)} {name : String} (h : find? fields name = none)
    (item : Item) : Extends fields (fields ++ [(name, item)]) := by
  refine .inr ⟨name, ?_, by simp [keys]⟩
  intro hname
  obtain ⟨⟨k, i⟩, hmem, rfl⟩ := List.mem_map.1 hname
  simp only [find?, Option.map_eq_none_iff, List.find?_eq_none, decide_eq_true_eq] at h
  exact h (k, i) hmem rfl

theorem Extends.put {fields : List (String × Item)} {name : String} {old : Item}
    (h : find? fields name = some old) (item : Item) : Extends fields (put name item fields) := by
  refine .inl ?_
  induction fields with
  | nil => simp [find?] at h
  | cons field rest ih =>
    obtain ⟨k, i⟩ := field
    by_cases hk : k = name
    · simp [Toml.put, hk, keys]
    · have hrest : find? rest name = some old := by simpa [find?, hk] using h
      simpa [Toml.put, hk, keys] using ih hrest

section

variable {β : Type} {path key : List String} {name : String} {v : Setting}
  {fields fields' : List (String × Item)} {x : Option β} {item : β → Item}

theorem Extends.of_append (hnone : find? fields name = none)
    (h : x.map (fun b => fields ++ [(name, item b)]) = some fields') : Extends fields fields' := by
  obtain ⟨b, -, rfl⟩ := Option.map_eq_some_iff.1 h
  exact .append hnone _

theorem Extends.of_put {old : Item} (hsome : find? fields name = some old)
    (h : x.map (fun b => Toml.put name (item b) fields) = some fields') : Extends fields fields' := by
  obtain ⟨b, -, rfl⟩ := Option.map_eq_some_iff.1 h
  exact .put hsome _

theorem extends_setKey : setKey path v fields = some fields' → Extends fields fields' := by
  fun_cases setKey path v fields with
  | case1 | case2 | case6 => simp
  | case3 v fields name hnone =>
    rintro ⟨⟩
    exact .append hnone _
  | case4 v fields name rest _ hnone => exact .of_append hnone
  | case5 v fields name rest _ dotted inner hsome => exact .of_put hsome

theorem extends_openTable : openTable path fields = some fields' → Extends fields fields' := by
  fun_cases openTable path fields with
  | case1 | case4 | case8 => simp
  | case2 fields name hnone =>
    rintro ⟨⟩
    exact .append hnone _
  | case3 fields name dotted inner hsome =>
    rintro ⟨⟩
    exact .put hsome _
  | case5 fields name rest _ hnone => exact .of_append hnone
  | case6 fields name rest _ closed dotted inner hsome => exact .of_put hsome
  | case7 fields name rest _ done inner hsome => exact .of_put hsome

theorem extends_openListed : openListed path fields = some fields' → Extends fields fields' := by
  fun_cases openListed path fields with
  | case1 | case4 | case8 => simp
  | case2 fields name hnone =>
    rintro ⟨⟩
    exact .append hnone _
  | case3 fields name done inner hsome =>
    rintro ⟨⟩
    exact .put hsome _
  | case5 fields name rest _ hnone => exact .of_append hnone
  | case6 fields name rest _ closed dotted inner hsome => exact .of_put hsome
  | case7 fields name rest _ done inner hsome => exact .of_put hsome

theorem extends_setBelow : setBelow path key v fields = some fields' → Extends fields fields' := by
  fun_cases setBelow path key v fields with
  | case1 => exact extends_setKey
  | case2 key v fields name rest closed dotted inner hsome => exact .of_put hsome
  | case3 key v fields name rest done inner hsome => exact .of_put hsome
  | case4 => simp

end

/-! ## 2. A document -/

theorem keys_lines?_nodup {fuel : Nat} {path : List String} {fields fields' : List (String × Item)}
    {s : List Char} (hkeys : (keys fields).Nodup) (h : lines? fuel path fields s = some fields') :
    (keys fields').Nodup := by
  -- a heading first closes the tables before it, which leaves the keys as they are
  have hclosed {fields : List (String × Item)} (h : (keys fields).Nodup) :
      (keys (closeFields fields)).Nodup := by
    rwa [keys_closeFields]
  fun_induction lines? fuel path fields s with
  | case1 | case3 =>
    cases h
    exact hkeys
  | case4 fuel path fields s rest _ key s' _ opened hopen ih =>
    exact ih ((extends_openListed hopen).nodup (hclosed hkeys)) h
  | case7 fuel path fields s rest _ _ key s' _ opened hopen ih =>
    exact ih ((extends_openTable hopen).nodup (hclosed hkeys)) h
  | case10 fuel path fields s c rest _ _ _ _ s' _ ih => exact ih hkeys h
  | case13 fuel path fields s c rest _ _ _ _ key rest' _ v s' _ set s'' _ hset ih =>
    exact ih ((extends_setBelow hset).nodup hkeys) h
  | _ => cases h

/-- The settings of a document are a layer: it sets every key once. -/
theorem isLayer_parse? {text : String} {s : Setting} (h : parse? text = some s) : s.IsLayer := by
  obtain ⟨fields, hlines, rfl⟩ := Option.map_eq_some_iff.1 h
  rw [Setting.IsLayer, keys_settings]
  exact keys_lines?_nodup (by simp [keys]) hlines

end CallCoupling.Toml
