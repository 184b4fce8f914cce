import CallCoupling.Proofs.Json.Document
import Mathlib

/-!
# What a value says

Two values that are spelled differently may say the same: `"<"` and `"\u003c"` are one text. `Json.datum?` forgets the
spelling of strings and keeps everything else, the literals of numbers and the order of fields with their repeats
included.

A proper value says something (`Proper.exists_datum?`), and it says the same when it is made safe for a page
(`Proper.datum?_safe`); it is still proper then (`Proper.safe`) and nests as deep (`depth_safe`).
-/

set_option autoImplicit false

namespace CallCoupling

/-- What a JSON value says. -/
inductive Datum where
  | null
  | bool (b : Bool)
  | number (literal : String)
  | text (s : String)
  | array (items : List Datum)
  | object (fields : List (String × Datum))

namespace Json

mutual

/-- What a value says; `none` if one of its strings has no text. -/
def datum? : Json → Option Datum
  | .null => some .null
  | .bool b => some (.bool b)
  | .number l => some (.number l)
  | .string s => (unescape s).map .text
  | .array items => (dataOfItems? items).map .array
  | .object fields => (dataOfFields? fields).map .object

def dataOfItems? : List Json → Option (List Datum)
  | [] => some []
  | v :: vs => do
    let d ← v.datum?
    let ds ← dataOfItems? vs
    pure (d :: ds)

def dataOfFields? : List (List Char × Json) → Option (List (String × Datum))
  | [] => some []
  | (k, v) :: rest => do
    let name ← unescape k
    let d ← v.datum?
    let ds ← dataOfFields? rest
    pure ((name, d) :: ds)

end

/-! ## 1. Every proper value says something -/

theorem exists_dataOfItems? {items : List Json} (h : ∀ v ∈ items, ∃ d, v.datum? = some d) :
    ∃ ds, dataOfItems? items = some ds := by
  induction items with
  | nil => exact ⟨[], rfl⟩
  | cons v vs ih =>
    obtain ⟨d, hd⟩ := h v (by simp)
    obtain ⟨ds, hds⟩ := ih fun v hv => h v (by simp [hv])
    exact ⟨d :: ds, by simp [dataOfItems?, hd, hds]⟩

theorem exists_dataOfFields? {fields : List (List Char × Json)} (hnames : ∀ field ∈ fields, Spelled field.1)
    (h : ∀ field ∈ fields, ∃ d, field.2.datum? = some d) : ∃ ds, dataOfFields? fields = some ds := by
  induction fields with
  | nil => exact ⟨[], rfl⟩
  | cons field fields ih =>
    obtain ⟨k, v⟩ := field
    obtain ⟨name, hname⟩ := (hnames (k, v) (by simp)).exists_unescape
    obtain ⟨d, hd⟩ := h (k, v) (by simp)
    obtain ⟨ds, hds⟩ := ih (fun field hfield => hnames field (by simp [hfield]))
      fun field hfield => h field (by simp [hfield])
    exact ⟨(name, d) :: ds, by simp [dataOfFields?, hname, show v.datum? = some d from hd, hds]⟩

/-- **A proper value says something.** -/
theorem Proper.exists_datum? {v : Json} (h : v.Proper) : ∃ d, v.datum? = some d := by
  induction h with
  | null => exact ⟨.null, rfl⟩
  | bool b => exact ⟨.bool b, rfl⟩
  | @number l _ => exact ⟨.number l, rfl⟩
  | string hs =>
    obtain ⟨t, ht⟩ := hs.exists_unescape
    exact ⟨.text t, by rw [datum?, ht]; rfl⟩
  | array _ ih =>
    obtain ⟨ds, hds⟩ := exists_dataOfItems? ih
    exact ⟨.array ds, by rw [datum?, hds]; rfl⟩
  | object hnames _ ih =>
    obtain ⟨ds, hds⟩ := exists_dataOfFields? hnames ih
    exact ⟨.object ds, by rw [datum?, hds]; rfl⟩

/-! ## 2. Values that are safe in a page -/

theorem safeItems_eq_map (items : List Json) : safeItems items = items.map safe := by
  induction items with
  | nil => rfl
  | cons v vs ih => rw [safeItems, ih, List.map_cons]

theorem safeFields_eq_map (fields : List (List Char × Json)) :
    safeFields fields = fields.map fun field => (safeSpelling field.1, field.2.safe) := by
  induction fields with
  | nil => rfl
  | cons field fields ih => rw [safeFields, ih, List.map_cons]

/-- **A proper value is proper when it is made safe.** -/
theorem Proper.safe {v : Json} (h : v.Proper) : v.safe.Proper := by
  induction h with
  | null => exact .null
  | bool b => exact .bool b
  | number h => exact .number h
  | string hs => exact .string hs.safeSpelling
  | array _ ih =>
    rw [Json.safe, safeItems_eq_map]
    exact .array (List.forall_mem_map.2 ih)
  | object hnames _ ih =>
    rw [Json.safe, safeFields_eq_map]
    exact .object (List.forall_mem_map.2 fun field hfield => (hnames field hfield).safeSpelling)
      (List.forall_mem_map.2 ih)

theorem dataOfItems?_safeItems {items : List Json} (h : ∀ v ∈ items, v.safe.datum? = v.datum?) :
    dataOfItems? (safeItems items) = dataOfItems? items := by
  induction items with
  | nil => rfl
  | cons v vs ih =>
    rw [safeItems, dataOfItems?, dataOfItems?, h v (by simp), ih fun v hv => h v (by simp [hv])]

theorem dataOfFields?_safeFields {fields : List (List Char × Json)} (hnames : ∀ field ∈ fields, Spelled field.1)
    (h : ∀ field ∈ fields, field.2.safe.datum? = field.2.datum?) :
    dataOfFields? (safeFields fields) = dataOfFields? fields := by
  induction fields with
  | nil => rfl
  | cons field fields ih =>
    obtain ⟨k, v⟩ := field
    have hname := (hnames (k, v) (by simp)).unescape_safeSpelling
    have hvalue : v.safe.datum? = v.datum? := h (k, v) (by simp)
    have hrest := ih (fun field hfield => hnames field (by simp [hfield])) fun field hfield => h field (by simp [hfield])
    rw [safeFields, dataOfFields?, dataOfFields?, hname, hvalue, hrest]

/-- **A safe value says the same.** -/
theorem Proper.datum?_safe {v : Json} (h : v.Proper) : v.safe.datum? = v.datum? := by
  induction h with
  | null => rfl
  | bool b => rfl
  | number h => rfl
  | string hs => rw [Json.safe, datum?, datum?, hs.unescape_safeSpelling]
  | array _ ih => rw [Json.safe, datum?, datum?, dataOfItems?_safeItems ih]
  | object hnames _ ih => rw [Json.safe, datum?, datum?, dataOfFields?_safeFields hnames ih]

theorem depthOfItems_safeItems {items : List Json} (h : ∀ v ∈ items, v.safe.depth = v.depth) :
    depthOfItems (safeItems items) = depthOfItems items := by
  induction items with
  | nil => rfl
  | cons v vs ih =>
    rw [safeItems, depthOfItems, depthOfItems, h v (by simp), ih fun v hv => h v (by simp [hv])]

theorem depthOfFields_safeFields {fields : List (List Char × Json)}
    (h : ∀ field ∈ fields, field.2.safe.depth = field.2.depth) :
    depthOfFields (safeFields fields) = depthOfFields fields := by
  induction fields with
  | nil => rfl
  | cons field fields ih =>
    have hvalue : field.2.safe.depth = field.2.depth := h field (by simp)
    rw [safeFields, depthOfFields, depthOfFields, hvalue, ih fun field hfield => h field (by simp [hfield])]

/-- **A safe value nests as deep.** -/
theorem depth_safe (v : Json) : v.safe.depth = v.depth := by
  induction v using ind with
  | null => rfl
  | bool b => rfl
  | number l => rfl
  | string s => rfl
  | array items ih => rw [safe, depth, depth, depthOfItems_safeItems ih]
  | object fields ih => rw [safe, depth, depth, depthOfFields_safeFields ih]

end Json

end CallCoupling
