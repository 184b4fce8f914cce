import CallCoupling.Proofs.Json.RoundTrip
import CallCoupling.Proofs.Model.Normal
import CallCoupling.Proofs.Text.Utf8
import Mathlib

/-!
# A model is read back from its document

`Project.render` writes a model as a document: an object for each record, null for a missing entry, and no field
for what is empty where the format allows to leave it out. Decoding such a document gives the normal form of the
model (`Project.decode_render`).

The document is any size and any shape, and so the proof goes up the records, one lemma for each: merging the
fields of a record into an empty one gives the record (`TypeRef.mergeFields_fields` and its like). Three facts
carry all six. A field that is left out and a field that is merged come to the same
(`Json.mergeFields_optionally`), since what is left out is what an empty record holds anyway. An entry merges by
the lemma of its record (`Json.mergeOption_nullable`), and a list by its entries (`Json.mergeList_records`).

Two limits are not those of this proof. A name that has stray bytes is written with replacement characters and
a line number past 64 bits is no number of the format, so neither comes back: `Project.representable` shuts them
out. And only the list of types is told apart from an absent one; for the lists further in, absent and empty are
one and the same model.
-/

set_option autoImplicit false

namespace CallCoupling

open Text Json

/-! ## 1. Documents -/

namespace Json

/-- A field in front of others, left out when it is not present. -/
def optionally (present : Bool) (key : String) (v : Json) (rest : List (String × Json)) : List (String × Json) :=
  if present then (key, v) :: rest else rest

/-- A record by its fields, or null. -/
def nullable {α : Type} (fields : α → List (String × Json)) : Option α → Json
  | some a => .ofFields (fields a)
  | none => .null

/-- A list of records, null where one is missing. -/
def records {α : Type} (fields : α → List (String × Json)) (entries : List (Option α)) : Json :=
  .array (entries.map (nullable fields))

end Json

def TypeRef.fields (r : TypeRef) : List (String × Json) :=
  ("name", .loose r.name) :: optionally r.synthetic "synthetic" (.bool r.synthetic) []

def Receiver.fields (r : Receiver) : List (String × Json) :=
  optionally r.declared.isSome "type" (nullable TypeRef.fields r.declared) <|
    optionally r.accessed.isSome "accessedType" (nullable TypeRef.fields r.accessed) []

def Invocation.fields (i : Invocation) : List (String × Json) :=
  optionally (!i.method.isEmpty) "method" (.loose i.method) <|
    ("receiver", .ofFields i.receiver.fields) :: optionally (i.line ≠ 0) "line" (.int i.line) []

def Method.fields (m : Method) : List (String × Json) :=
  ("name", .loose m.name) ::
    (optionally (!m.signature.isEmpty) "signature" (.loose m.signature) <|
      optionally (!m.owner.isEmpty) "declaringType" (.loose m.owner) <|
        optionally (!m.invocations.isEmpty) "invocations" (records Invocation.fields m.invocations) [])

def TypeDecl.fields (t : TypeDecl) : List (String × Json) :=
  ("name", .loose t.name) :: optionally (!t.methods.isEmpty) "methods" (records Method.fields t.methods) []

/-- The list of types, or null if there is none. -/
def TypeDecl.listJson : Option (List (Option TypeDecl)) → Json
  | some types => records TypeDecl.fields types
  | none => .null

def Project.fields (p : Project) : List (String × Json) :=
  optionally (!p.name.isEmpty) "name" (.loose p.name) [("types", TypeDecl.listJson p.types)]

/-- The model as a value. -/
def Project.toJson (p : Project) : Json := .ofFields p.fields

/-- The bytes of the document of a model. -/
def Project.render (p : Project) : List UInt8 := (Loose.ofString p.toJson.compact).toBytes

def TypeRef.representable (r : TypeRef) : Bool := r.name.isText

def Receiver.representable (r : Receiver) : Bool :=
  r.declared.all TypeRef.representable && r.accessed.all TypeRef.representable

def Invocation.representable (i : Invocation) : Bool :=
  i.method.isText && i.receiver.representable && Integer.fits i.line

def Method.representable (m : Method) : Bool :=
  m.name.isText && m.signature.isText && m.owner.isText && m.invocations.all (·.all Invocation.representable)

def TypeDecl.representable (t : TypeDecl) : Bool := t.name.isText && t.methods.all (·.all Method.representable)

/-- Every name is text and every line number has 64 bits. -/
def Project.representable (p : Project) : Bool := p.name.isText && p.typeList.all (·.all TypeDecl.representable)

/-! ## 2. Merging what was written -/

namespace Json

theorem mergeName_loose (old : Name) {t : Name} (ht : t.isText = true) : mergeName old (.loose t) = some t := by
  show (unescape (escape t.shown)).map Loose.ofString = some t
  rw [unescape_escape, Option.map_some, Loose.ofString_shown ht]

theorem mergeInt_int (old : Int) {n : Int} (hn : Integer.fits n = true) : mergeInt old (.int n) = some n := by
  show (Integer.parseDecimal (Integer.text n)).toOption = some n
  rw [Integer.parseDecimal_text hn]
  rfl

variable {α β : Type} {set : α → String → Json → Option α}

theorem mergeFields_cons {a b : α} {key : String} {v : Json} (h : set a key v = some b)
    (rest : List (String × Json)) : mergeFields set ((key, v) :: rest) a = mergeFields set rest b := by
  rw [mergeFields, h]

/-- **A field that is left out and a field that is merged come to the same**, if what it would be merged to is there
    already when it is left out. -/
theorem mergeFields_optionally {a b : α} {present : Bool} {key : String} {v : Json} (hset : set a key v = some b)
    (habsent : present = false → b = a) (rest : List (String × Json)) :
    mergeFields set (optionally present key v rest) a = mergeFields set rest b := by
  cases present with
  | true => exact mergeFields_cons hset rest
  | false => rw [optionally, if_neg (by simp), habsent rfl]

theorem mergeRecord_ofFields (old : α) (fields : List (String × Json)) :
    mergeRecord set old (.ofFields fields) = mergeFields set fields old := by
  have hfields := fields?_ofFields fields
  rw [Json.ofFields] at hfields ⊢
  simp only [mergeRecord, hfields]

theorem mergeOption_nullable [Inhabited α] {fields : β → List (String × Json)} {draft : β → α} {entry : Option β}
    (h : ∀ b, entry = some b → mergeFields set (fields b) default = some (draft b)) :
    mergeOption set none (nullable fields entry) = some (entry.map draft) := by
  cases entry with
  | none => rfl
  | some b =>
    show (mergeRecord set default (.ofFields (fields b))).map some = _
    rw [mergeRecord_ofFields, h b rfl]
    rfl

theorem mergeItems_nullable [Inhabited α] {fields : β → List (String × Json)} {draft : β → α}
    {entries : List (Option β)} (h : ∀ b, some b ∈ entries → mergeFields set (fields b) default = some (draft b)) :
    mergeItems set [] (entries.map (nullable fields)) = some (entries.map (·.map draft)) := by
  induction entries with
  | nil => rfl
  | cons entry entries ih =>
    have hentry : mergeOption set none (nullable fields entry) = some (entry.map draft) :=
      mergeOption_nullable fun b hb => h b (by simp [hb])
    rw [List.map_cons, mergeItems, List.head?_nil, Option.getD_none, List.tail_nil, hentry,
      ih fun b hb => h b (by simp [hb])]
    rfl

/-- **A list of records merges into an empty list**, if every record merges into an empty one. -/
theorem mergeList_records [Inhabited α] {fields : β → List (String × Json)} {draft : β → α}
    {entries : List (Option β)} {old : Option (Slots α)} (hold : old = none ∨ old = some {})
    (h : ∀ b, some b ∈ entries → mergeFields set (fields b) default = some (draft b)) :
    mergeList set old (records fields entries) = some (some { items := entries.map (·.map draft) }) := by
  -- Nothing was read before, so no item merges into an old one and none is left behind the end.
  have hbefore : (old.map fun s => s.items ++ s.spare).getD [] = [] := by
    rcases hold with rfl | rfl <;> rfl
  cases entries with
  | nil => rfl
  | cons entry entries =>
    have hitems := mergeItems_nullable h
    rw [List.map_cons] at hitems
    rw [records, List.map_cons, mergeList]
    · simp only [hbefore, hitems]
      simp
    · simp

end Json

/-! ## 3. The records -/

theorem TypeRef.mergeFields_fields {r : TypeRef} (hr : r.representable = true) :
    mergeFields TypeRef.setField r.fields default = some r := by
  obtain ⟨name, synthetic⟩ := r
  have hname : TypeRef.setField {} "name" (.loose name) = some { name } := by
    simp +decide [TypeRef.setField, mergeName_loose _ hr]
  have hsynthetic : TypeRef.setField { name } "synthetic" (.bool synthetic) = some { name, synthetic } := by
    simp +decide [TypeRef.setField, mergeBool]
  show mergeFields TypeRef.setField (TypeRef.fields { name, synthetic }) {} = _
  rw [TypeRef.fields, mergeFields_cons hname, mergeFields_optionally hsynthetic]
  · rfl
  · simp

theorem TypeRef.mergeOption_fields {entry : Option TypeRef} (h : entry.all TypeRef.representable = true) :
    mergeOption TypeRef.setField none (nullable TypeRef.fields entry) = some entry := by
  rw [Option.all_eq_true] at h
  rw [mergeOption_nullable fun r hr => TypeRef.mergeFields_fields (h r hr)]
  exact congrArg some Option.map_id'

theorem Receiver.mergeFields_fields {r : Receiver} (hr : r.representable = true) :
    mergeFields Receiver.setField r.fields default = some r := by
  obtain ⟨declared, accessed⟩ := r
  obtain ⟨hdeclared, haccessed⟩ := Bool.and_eq_true_iff.1 hr
  have htype : Receiver.setField {} "type" (nullable TypeRef.fields declared) = some { declared } := by
    simp +decide [Receiver.setField, TypeRef.mergeOption_fields hdeclared]
  have haccessedType : Receiver.setField { declared } "accessedType" (nullable TypeRef.fields accessed) =
      some { declared, accessed } := by
    simp +decide [Receiver.setField, TypeRef.mergeOption_fields haccessed]
  show mergeFields Receiver.setField (Receiver.fields { declared, accessed }) {} = _
  rw [Receiver.fields, mergeFields_optionally htype, mergeFields_optionally haccessedType]
  · rfl
  · simp
  · simp

theorem Invocation.mergeFields_fields {i : Invocation} (hi : i.representable = true) :
    mergeFields Invocation.setField i.fields default = some i := by
  obtain ⟨method, receiver, line⟩ := i
  simp only [Invocation.representable, Bool.and_eq_true] at hi
  obtain ⟨⟨hname, hrecord⟩, hnumber⟩ := hi
  have hmethod : Invocation.setField {} "method" (.loose method) = some { method } := by
    simp +decide [Invocation.setField, mergeName_loose _ hname]
  have hreceiver : Invocation.setField { method } "receiver" (.ofFields receiver.fields) =
      some { method, receiver } := by
    show (mergeRecord Receiver.setField default (.ofFields receiver.fields)).map _ = _
    rw [mergeRecord_ofFields, Receiver.mergeFields_fields hrecord]
    rfl
  have hline : Invocation.setField { method, receiver } "line" (.int line) = some { method, receiver, line } := by
    simp +decide [Invocation.setField, mergeInt_int _ hnumber]
  show mergeFields Invocation.setField (Invocation.fields { method, receiver, line }) {} = _
  rw [Invocation.fields, mergeFields_optionally hmethod, mergeFields_cons hreceiver, mergeFields_optionally hline]
  · rfl
  · simp
  · simp

/-- The method as it stands while it is being read. -/
def Method.draft (m : Method) : MethodDraft :=
  { frame := { m with invocations := [] }, invocations := { items := m.invocations } }

theorem Method.finish_draft (m : Method) : m.draft.finish = m := rfl

theorem Method.mergeFields_fields {m : Method} (hm : m.representable = true) :
    mergeFields MethodDraft.setField m.fields default = some m.draft := by
  simp only [Method.representable, Bool.and_eq_true, List.all_eq_true, Option.all_eq_true] at hm
  obtain ⟨⟨⟨hname, hsignature⟩, howner⟩, hinvocations⟩ := hm
  have hlist : mergeList Invocation.setField (some {}) (records Invocation.fields m.invocations) =
      some (some { items := m.invocations }) := by
    rw [mergeList_records (Or.inr rfl) fun i hi => Invocation.mergeFields_fields (hinvocations _ hi i rfl)]
    simp
  have hsetName : MethodDraft.setField {} "name" (.loose m.name) = some { frame := { name := m.name } } := by
    simp +decide [MethodDraft.setField, mergeName_loose _ hname]
  have hsetSignature : MethodDraft.setField { frame := { name := m.name } } "signature" (.loose m.signature) =
      some { frame := { name := m.name, signature := m.signature } } := by
    simp +decide [MethodDraft.setField, mergeName_loose _ hsignature]
  have hsetOwner : MethodDraft.setField { frame := { name := m.name, signature := m.signature } } "declaringType"
      (.loose m.owner) = some { frame := { m with invocations := [] } } := by
    simp +decide [MethodDraft.setField, mergeName_loose _ howner]
  have hsetInvocations : MethodDraft.setField { frame := { m with invocations := [] } } "invocations"
      (records Invocation.fields m.invocations) = some m.draft := by
    simp +decide [MethodDraft.setField, hlist, Method.draft]
  show mergeFields MethodDraft.setField m.fields {} = some m.draft
  rw [Method.fields, mergeFields_cons hsetName, mergeFields_optionally hsetSignature,
    mergeFields_optionally hsetOwner, mergeFields_optionally hsetInvocations]
  · rfl
  · simp [Method.draft]
  · simp
  · simp

/-- The type as it stands while it is being read. -/
def TypeDecl.draft (t : TypeDecl) : TypeDraft :=
  { name := t.name, methods := { items := t.methods.map (·.map Method.draft) } }

theorem TypeDecl.finish_draft (t : TypeDecl) : t.draft.finish = t := by
  simp [TypeDecl.draft, TypeDraft.finish, Slots.finish, Function.comp_def, Method.finish_draft]

theorem TypeDecl.mergeFields_fields {t : TypeDecl} (ht : t.representable = true) :
    mergeFields TypeDraft.setField t.fields default = some t.draft := by
  simp only [TypeDecl.representable, Bool.and_eq_true, List.all_eq_true, Option.all_eq_true] at ht
  have hlist : mergeList MethodDraft.setField (some {}) (records Method.fields t.methods) =
      some (some { items := t.methods.map (·.map Method.draft) }) :=
    mergeList_records (Or.inr rfl) fun m hm => Method.mergeFields_fields (ht.2 _ hm m rfl)
  have hname : TypeDraft.setField {} "name" (.loose t.name) = some { name := t.name } := by
    simp +decide [TypeDraft.setField, mergeName_loose _ ht.1]
  have hmethods : TypeDraft.setField { name := t.name } "methods" (records Method.fields t.methods) =
      some t.draft := by
    simp +decide [TypeDraft.setField, hlist, TypeDecl.draft]
  show mergeFields TypeDraft.setField t.fields {} = some t.draft
  rw [TypeDecl.fields, mergeFields_cons hname, mergeFields_optionally hmethods]
  · rfl
  · simp [TypeDecl.draft]

/-- **A model is taken from its value as it is**, null entries included. -/
theorem Project.ofJson?_toJson {p : Project} (hp : p.representable = true) : ofJson? p.toJson = some p := by
  simp only [Project.representable, Bool.and_eq_true, List.all_eq_true, Option.all_eq_true] at hp
  have htypes : ProjectDraft.setField { name := p.name } "types" (TypeDecl.listJson p.types) =
      some { name := p.name, types := p.types.map fun ts => { items := ts.map (·.map TypeDecl.draft) } } := by
    show (mergeList TypeDraft.setField none (TypeDecl.listJson p.types)).map _ = _
    cases hlist : p.types with
    | none => rfl
    | some types =>
      have hmerge : mergeList TypeDraft.setField none (records TypeDecl.fields types) =
          some (some { items := types.map (·.map TypeDecl.draft) }) :=
        mergeList_records (Or.inl rfl) fun t ht =>
          TypeDecl.mergeFields_fields (hp.2 (some t) (by simpa [Project.typeList, hlist] using ht) t rfl)
      rw [TypeDecl.listJson, hmerge]
      rfl
  have hname : ProjectDraft.setField {} "name" (.loose p.name) = some { name := p.name } := by
    simp +decide [ProjectDraft.setField, mergeName_loose _ hp.1]
  rw [Project.ofJson?, Project.toJson, mergeRecord_ofFields, Project.fields,
    mergeFields_optionally hname, mergeFields_cons htypes]
  · simp [mergeFields, ProjectDraft.finish, Slots.finish, Function.comp_def, TypeDecl.finish_draft]
  · simp

/-! ## 4. The text -/

namespace Json

/-- Fields whose values nest at most `depth` deep. -/
def PlainFields (depth : Nat) (fields : List (String × Json)) : Prop := ∀ field ∈ fields, Plain depth field.2

theorem PlainFields.nil (depth : Nat) : PlainFields depth [] := by
  simp [PlainFields]

theorem PlainFields.cons {depth : Nat} {v : Json} (hv : Plain depth v) (key : String)
    {fields : List (String × Json)} (h : PlainFields depth fields) : PlainFields depth ((key, v) :: fields) := by
  intro field hfield
  rcases List.mem_cons.1 hfield with rfl | hfield
  · exact hv
  · exact h field hfield

theorem PlainFields.optionally {depth : Nat} {v : Json} (hv : Plain depth v) (present : Bool) (key : String)
    {fields : List (String × Json)} (h : PlainFields depth fields) :
    PlainFields depth (Json.optionally present key v fields) := by
  cases present with
  | true => exact h.cons hv key
  | false => exact h

variable {α : Type} {fields : α → List (String × Json)} {depth : Nat}

theorem plain_nullable (h : ∀ a, PlainFields depth (fields a)) (entry : Option α) :
    Plain (depth + 1) (nullable fields entry) := by
  cases entry with
  | none => exact .null _
  | some a => exact .ofFields (h a)

theorem plain_records (h : ∀ a, PlainFields depth (fields a)) (entries : List (Option α)) :
    Plain (depth + 2) (records fields entries) := by
  refine .array fun v hv => ?_
  obtain ⟨entry, -, rfl⟩ := List.mem_map.1 hv
  exact plain_nullable h entry

end Json

-- Whatever the model, its document nests nine deep at most: a record is one level and a list of records is two.
theorem TypeRef.plainFields (r : TypeRef) : PlainFields 0 r.fields :=
  .cons (.text _ _) _ (.optionally (.bool _ _) _ _ (.nil _))

theorem Receiver.plainFields (r : Receiver) : PlainFields 1 r.fields :=
  .optionally (plain_nullable TypeRef.plainFields _) _ _
    (.optionally (plain_nullable TypeRef.plainFields _) _ _ (.nil _))

theorem Invocation.plainFields (i : Invocation) : PlainFields 2 i.fields :=
  .optionally (.text _ _) _ _ (.cons (.ofFields i.receiver.plainFields) _ (.optionally (.int _ _) _ _ (.nil _)))

theorem Method.plainFields (m : Method) : PlainFields 4 m.fields :=
  .cons (.text _ _) _ (.optionally (.text _ _) _ _
    (.optionally (.text _ _) _ _ (.optionally (plain_records Invocation.plainFields _) _ _ (.nil _))))

theorem TypeDecl.plainFields (t : TypeDecl) : PlainFields 6 t.fields :=
  .cons (.text _ _) _ (.optionally (plain_records Method.plainFields _) _ _ (.nil _))

theorem Project.plainFields (p : Project) : PlainFields 8 p.fields := by
  refine .optionally (.text _ _) _ _ (.cons ?_ _ (.nil _))
  cases p.types with
  | none => exact .null _
  | some types => exact plain_records TypeDecl.plainFields types

/-- **A model is read from its document as it is**, null entries included. -/
theorem Project.ofJsonBytes_render {p : Project} (hp : p.representable = true) :
    Project.ofJsonBytes p.render = .ok p := by
  have hplain : Plain 9 p.toJson := .ofFields p.plainFields
  have hread : (Loose.ofBytes p.render).shownChars = p.toJson.compactChars := by
    rw [Project.render, Loose.ofBytes_toBytes_ofString, Loose.shownChars_ofString, Json.compact,
      String.toList_ofList]
  rw [Project.ofJsonBytes, hread, hplain.parse?_compactChars (by decide)]
  dsimp only
  rw [Project.ofJson?_toJson hp]

-- Names are always written; the owner, the line and the static type are not there and are left out.
example :
    (TypeDecl.fields { name := "A", methods :=
      [some { name := "f", invocations := [some { receiver := { accessed := some { name := "B" } } }] }] }
      |> Json.ofFields).compact =
      "\x7b\"name\":\"A\",\"methods\":[\x7b\"name\":\"f\",\"invocations\":" ++
        "[\x7b\"receiver\":\x7b\"accessedType\":\x7b\"name\":\"B\"\x7d\x7d\x7d]\x7d]\x7d" := by
  decide

/-! ## 5. Decoding -/

/-- The extension of a JSON document, in any letter case. -/
theorem Format.ofExtension?_of_toLower {ext : String} (hext : ext.toLower = ".json") :
    Format.ofExtension? ext = some .json := by
  have hchars : ext.toList.map Char.toLower = ['.', 'j', 's', 'o', 'n'] := by
    have := congrArg String.toList hext
    rwa [String.toLower, String.toList_map] at this
  have hlower : Text.lower ext = ".json" := by
    have hmap : ext.toList.map lowerChar = ext.toList.map Char.toLower := by
      refine List.map_congr_left fun c hc => ?_
      -- The two characters that are lowered otherwise do not become one of these five.
      have hmem : c.toLower ∈ ['.', 'j', 's', 'o', 'n'] := hchars ▸ List.mem_map_of_mem hc
      rw [lowerChar, if_neg, if_neg]
      · rintro rfl
        revert hmem
        decide
      · rintro rfl
        revert hmem
        decide
    rw [Text.lower, hmap, hchars]
  rw [Format.ofExtension?, hlower]
  rfl

theorem Project.parse_render {p : Project} (hp : p.representable = true) {ext : String}
    (hext : ext.toLower = ".json") : Project.parse p.render ext = .ok p := by
  rw [Project.parse, Format.ofExtension?_of_toLower hext]
  exact Project.ofJsonBytes_render hp

/-- **Decoding undoes rendering.** The document of a model without null entries is decoded to the normal form of
the model, and a model in normal form comes back as it was. -/
theorem Project.decode_render {p : Project} (hcomplete : p.Complete) (hp : p.representable = true) {ext : String}
    (hext : ext.toLower = ".json") :
    Project.decode p.render ext = .ok p.normalise ∧
      (p.normalise = p → Project.decode p.render ext = .ok p) := by
  have hdecode : Project.decode p.render ext = .ok p.normalise :=
    Project.decode_eq_ok_iff.2 ⟨p, Project.parse_render hp hext, hcomplete, rfl⟩
  exact ⟨hdecode, fun hnormal => hdecode.trans (congrArg Except.ok hnormal)⟩

/-- A model with marks, controls and letters of other scripts in its names, with the least and the greatest line
number, with references absent, present and void, and with a type that is itself named void. -/
def Project.motley : Project where
  name := "a \"quoted\" \\ name\n<&> \x01\x08\x7f"
  types := some
    [some { name := "void" },
     some { name := "p.Größe\u2028😀", methods :=
      [some { name := "", signature := "f()", invocations :=
        [some { method := "g", receiver := { declared := some { name := "void" } }, line := Integer.greatest },
         some { receiver := { accessed := some { name := "p.B", synthetic := true } }, line := Integer.least },
         some { receiver := { declared := some { name := "void" }, accessed := some { name := "p.B" } } }] },
       some { name := "h", owner := "elsewhere" }] }]

theorem Project.decode_render_motley :
    Project.motley.normalise ≠ Project.motley ∧
      Project.decode Project.motley.render ".JsOn" = .ok Project.motley.normalise ∧
      Project.decode Project.motley.normalise.render ".json" = .ok Project.motley.normalise := by
  have hcomplete : Project.motley.Complete := Project.check_eq_ok_iff.1 rfl
  refine ⟨by decide, ?_, ?_⟩
  · exact (Project.decode_render hcomplete (by decide) (by cbv)).1
  · exact (Project.decode_render hcomplete.normalise (by decide) (by cbv)).2 (Project.normalise_normalise _)

end CallCoupling
