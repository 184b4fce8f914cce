import CallCoupling.Proofs.Config.Layers

/-!
# The layer of the environment

A variable sets the key that its name spells.  In an orderly environment (`Config.Orderly`) every key has at
most one variable, so the layer of the environment holds the text of that variable
(`Config.at?_environment`).
-/

set_option autoImplicit false

namespace CallCoupling

/-! ## 1. Names of variables -/

theorem Text.mem_of_dropStart? {start s rest : List Char} (h : Text.dropStart? start s = some rest) :
    ∀ c ∈ rest, c ∈ s := by
  fun_induction Text.dropStart? start s with
  | case1 s =>
    cases h
    exact fun c hc => hc
  | case3 ps c cs ih => exact fun d hd => List.mem_cons_of_mem _ (ih h d hd)
  | _ => cases h

/-- Only a dot is a dot in lower case. -/
theorem Text.eq_dot_of_lowerChar {c : Char} (h : Text.lowerChar c = '.') : c = '.' := by
  rw [Text.lowerChar] at h
  split at h
  · exact absurd h (by decide)
  · split at h
    · exact absurd h (by decide)
    · by_cases hupper : c.val ≥ 'A'.val ∧ c.val ≤ 'Z'.val
      · have hcapital : c.toLower = _ := dif_pos hupper
        rw [hcapital] at h
        -- a capital becomes a letter, far from the dot
        have hval : (c.val + ('a'.val - 'A'.val)).toNat = 46 := congrArg (fun d => d.val.toNat) h
        obtain ⟨hlow, hhigh⟩ : 65 ≤ c.val.toNat ∧ c.val.toNat ≤ 90 := hupper
        have hshift : ('a'.val - 'A'.val).toNat = 32 := rfl
        rw [UInt32.toNat_add, hshift] at hval
        omega
      · have hother : c.toLower = c := dif_neg hupper
        exact hother.symm.trans h

namespace Config

open Setting

/-- The keys of the configuration. -/
def keys : List String :=
  ["source", "output", "graph-output", "out-of-set", "top", "debug", "web", "port", "watch", "open",
    "verbosity", "verbose", "log-format"]

/-- The variable that sets a key: the key in capitals, with `_` for `-`. -/
def variableName (key : String) : String :=
  environmentStart ++ key.map fun c => if c = '-' then '_' else c.toUpper

/-- Every key is set at most once, by its own variable.  Other variables that start like those set no key
and have no dot. -/
structure Orderly (vars : List (String × String)) : Prop where
  once : ∀ key ∈ keys, (vars.map (·.1)).count (variableName key) ≤ 1
  own : ∀ p ∈ vars, ∀ key ∈ keys, environmentKey? p.1 = some key → p.1 = variableName key
  undotted : ∀ p ∈ vars, Text.startsWith p.1 environmentStart → '.' ∉ p.1.toList

theorem environmentKey?_variableName {key : String} (h : key ∈ keys) :
    environmentKey? (variableName key) = some key := by
  have hall : ∀ key ∈ keys, environmentKey? (variableName key) = some key := by decide +kernel
  exact hall key h

theorem startsWith_of_environmentKey? {name key : String} (h : environmentKey? name = some key) :
    Text.startsWith name environmentStart := by
  unfold environmentKey? at h
  split at h
  · cases h
  · next hdrop => simp [Text.startsWith, hdrop]

theorem undotted_of_environmentKey? {name key : String} (h : environmentKey? name = some key)
    (hname : '.' ∉ name.toList) : '.' ∉ key.toList := by
  unfold environmentKey? at h
  split at h
  · cases h
  · next rest hdrop =>
    simp only [Option.ite_none_left_eq_some, Option.some.injEq] at h
    obtain ⟨-, rfl⟩ := h
    simp only [Text.lower, String.toList_map, String.toList_ofList, List.map_map, List.mem_map, Function.comp]
    rintro ⟨c, hc, hdot⟩
    have hlower : Text.lowerChar c = '.' := by
      split at hdot
      · cases hdot
      · exact hdot
    exact hname (Text.eq_dot_of_lowerChar hlower ▸ Text.mem_of_dropStart? hdrop c hc)

/-! ## 2. The layer -/

/-- The settings that variables make, in order. -/
def settingsOf (vars : List (String × String)) : List (String × Setting) :=
  vars.filterMap fun (name, value) => (environmentKey? name).map fun key => (key, .text value)

theorem mem_settingsOf {vars : List (String × String)} {key : String} {v : Setting} :
    (key, v) ∈ settingsOf vars ↔
      ∃ name value, (name, value) ∈ vars ∧ environmentKey? name = some key ∧ v = .text value := by
  simp only [settingsOf, List.mem_filterMap, Option.map_eq_some_iff, Prod.mk.injEq, Prod.exists]
  constructor
  · rintro ⟨name, value, hmem, _, hkey, rfl, rfl⟩
    exact ⟨name, value, hmem, hkey, rfl⟩
  · rintro ⟨name, value, hmem, hkey, rfl⟩
    exact ⟨name, value, hmem, key, hkey, rfl, rfl⟩

variable {vars : List (String × String)}

theorem flat_settingsOf (h : Orderly vars) : Flat (settingsOf vars) := by
  intro key v hmem
  obtain ⟨name, value, hvar, hkey, rfl⟩ := mem_settingsOf.1 hmem
  have hname := h.undotted _ hvar (startsWith_of_environmentKey? hkey)
  exact ⟨undotted_of_environmentKey? hkey hname, trivial⟩

/-- Looking up a key among the settings is looking up its variable. -/
theorem find?_settingsOf {key : String}
    (h : ∀ p ∈ vars, environmentKey? p.1 = some key ↔ p.1 = variableName key) :
    find? (settingsOf vars) key = (vars.lookup (variableName key)).map .text := by
  induction vars with
  | nil => rfl
  | cons p rest ih =>
    obtain ⟨name, value⟩ := p
    obtain ⟨hhead, hrest⟩ := List.forall_mem_cons.1 h
    have ih := ih hrest
    by_cases hname : name = variableName key
    · subst hname
      have hkey : environmentKey? (variableName key) = some key := hhead.2 rfl
      simp [settingsOf, hkey, find?_cons]
    · have hkey : environmentKey? name ≠ some key := fun hkey => hname (hhead.1 hkey)
      rw [List.lookup_cons, beq_false_of_ne (Ne.symm hname), ← ih]
      cases hother : environmentKey? name with
      | none => simp [settingsOf, hother]
      | some other =>
        have hne : other ≠ key := fun heq => hkey (heq ▸ hother)
        simp [settingsOf, hother, find?_cons, hne]

/-- Where a name occurs at most once, the order of the list does not matter. -/
theorem lookup_reverse {name : String} (h : (vars.map (·.1)).count name ≤ 1) :
    vars.reverse.lookup name = vars.lookup name := by
  induction vars with
  | nil => rfl
  | cons p rest ih =>
    obtain ⟨n, value⟩ := p
    rw [List.reverse_cons, List.lookup_append]
    by_cases hn : n = name
    · subst hn
      have hrest : n ∉ rest.map (·.1) := List.count_eq_zero.1 (by simpa using h)
      have hnone : rest.reverse.lookup n = none := by
        refine List.lookup_eq_none_iff.2 fun p hp => ?_
        simpa using fun heq : n = p.1 => hrest (heq ▸ List.mem_map_of_mem (List.mem_reverse.1 hp))
      simp [hnone]
    · have hrest : (rest.map (·.1)).count name ≤ 1 := by simpa [List.count_cons, hn] using h
      rw [ih hrest, List.lookup_cons, beq_false_of_ne (Ne.symm hn)]
      simp [List.lookup_cons, beq_false_of_ne (Ne.symm hn)]

/-- The setting of a key in the layer of the environment is the text of its variable. -/
theorem at?_environment (h : Orderly vars) {key : String} (hkey : key ∈ keys) :
    (environment vars).at? key = (vars.lookup (variableName key)).map .text := by
  have hreverse : (settingsOf vars).reverse = settingsOf vars.reverse := by
    simp [settingsOf, List.filterMap_reverse]
  have hown : ∀ p ∈ vars.reverse, environmentKey? p.1 = some key ↔ p.1 = variableName key := by
    intro p hp
    refine ⟨h.own p (List.mem_reverse.1 hp) key hkey, fun hname => ?_⟩
    rw [hname, environmentKey?_variableName hkey]
  rw [environment, ← settingsOf, at?_layer (flat_settingsOf h), hreverse, find?_settingsOf hown,
    lookup_reverse (h.once key hkey)]

theorem isLayer_environment (h : Orderly vars) : (environment vars).IsLayer := isLayer_layer (flat_settingsOf h)

end Config

end CallCoupling
