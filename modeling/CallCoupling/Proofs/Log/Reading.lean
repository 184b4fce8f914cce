import CallCoupling.Log.Compact
import CallCoupling.Proofs.Text.Unquoted
import CallCoupling.Proofs.Text.Utf8

/-!
# The attributes of a compact line are read back

A compact line does not mark where a value starts or ends, and it quotes a value only if it has to. Still the part
behind the message tells the attributes, for texts under ordinary keys:

* a key holds no equals sign, so it goes up to the first one;
* a value that is not quoted holds no blank, so it goes up to the blank of the next attribute or to the end of
  the line; it holds no quote either, so it is not taken for a quoted one;
* a quoted value says itself where it ends (`Text.unquoteFrom_quoted`), whatever it looks like inside.

`Field.readTail?` reads by these three rules. It is told nothing about the handler: whether an attribute was attached
to it or came with the entry cannot be seen, and need not be.
-/

set_option autoImplicit false

namespace CallCoupling.Log

/-! ## 1. The parts of a line -/

namespace Compact

def heading (h : Compact) (clock : String) (e : Entry) : Loose :=
  Loose.ofString (mark e.level ++ clock ++ " ") ++
    (h.attrs.filter fun a => a.key = componentKey).flatMap (fun a => component a.value) ++
    Loose.ofString e.message

/-- The attributes that stand behind the message. -/
def listed (h : Compact) (e : Entry) : List Attr :=
  (h.attrs.filter fun a => a.key ≠ componentKey) ++ e.attrs

theorem line_eq (h : Compact) (clock : String) (e : Entry) :
    h.line clock e = h.heading clock e ++ (attrList h.group (h.listed e) ++ [.char '\n']) := by
  have hothers : (fun a : Attr => !decide (a.key = componentKey)) = fun a => decide (a.key ≠ componentKey) := by
    funext a
    exact (decide_not).symm
  unfold line heading listed
  rw [List.partition_eq_filter_filter]
  simp only [Function.comp_def, hothers, List.append_assoc]

theorem attr_of_ordinary {a : Attr} (ha : a.key ∉ ["requestID", "durationMs", "error"]) :
    attr a = plainAttr a := by
  simp only [List.mem_cons, List.not_mem_nil, or_false, not_or] at ha
  obtain ⟨hidentity, hduration, herror⟩ := ha
  unfold attr
  split
  · exact absurd ‹_› hidentity
  · exact absurd ‹_› hduration
  · exact absurd ‹_› herror
  · rfl

end Compact

/-! ## 2. Fields -/

structure Field where
  key : String
  value : String
deriving DecidableEq

namespace Field

def attr (f : Field) : Attr := .text f.key (Loose.ofString f.value)

/-- The key can be told from what stands around it, and has no form of its own. -/
structure Legible (f : Field) : Prop where
  nonempty : f.key ≠ ""
  clear : ∀ c ∈ f.key.toList, c ∉ [' ', '\t', '\n', '=', '"']
  ordinary : f.key ∉ [Compact.componentKey, "requestID", "durationMs", "error"]

def isMark (c : Char) : Bool := c = ' ' || c = '\t' || c = '\n' || c = '"' || c = '='

def spelledValue (s : String) : List Char :=
  if s.toList.any isMark then '"' :: (s.toList.flatMap (Text.quotedChar '"') ++ ['"']) else s.toList

def spelled (f : Field) : List Char := f.key.toList ++ '=' :: spelledValue f.value

theorem needsQuotes_ofString (s : String) : Compact.needsQuotes (Loose.ofString s) = s.toList.any isMark := by
  rw [Compact.needsQuotes, Loose.ofString, List.any_map]
  rfl

theorem shown_text (s : String) : Compact.shown (.text (Loose.ofString s)) = (spelledValue s).map .char := by
  rw [Compact.shown, needsQuotes_ofString, spelledValue]
  split
  · rw [Loose.ofString, Text.toList_quotedLoose_ofString]
  · rfl

theorem plainAttr_eq (f : Field) : Compact.plainAttr f.attr = f.spelled.map .char := by
  show Loose.ofString (f.key ++ "=") ++ Compact.shown (.text (Loose.ofString f.value)) = _
  rw [shown_text, spelled, Loose.ofString, String.toList_append, List.map_append, List.map_append, List.append_assoc]
  rfl

theorem Legible.attr_eq {f : Field} (hf : f.Legible) : Compact.attr f.attr = f.spelled.map .char := by
  have hordinary : f.attr.key ∉ ["requestID", "durationMs", "error"] :=
    fun hmem => hf.ordinary (List.mem_cons_of_mem _ hmem)
  rw [Compact.attr_of_ordinary hordinary, plainAttr_eq]

/-- What stands behind the message of a line with these fields. -/
def tail (fs : List Field) : List Char :=
  (if fs = [] then [] else [' ', '|']) ++ (fs.flatMap (fun f => ' ' :: f.spelled) ++ ['\n'])

/-- Every field is shown: it has a value. -/
theorem attrList_fields (fs : List Field) :
    Compact.attrList "" (fs.map attr) =
      (if fs = [] then [] else Loose.ofString " |") ++ fs.flatMap fun f => .char ' ' :: Compact.attr f.attr := by
  have hshown : (fs.map attr).filter (fun a => !a.isEmpty) = fs.map attr := by
    rw [List.filter_eq_self]
    intro a ha
    obtain ⟨f, -, rfl⟩ := List.mem_map.1 ha
    simp [attr, Attr.text, Attr.isEmpty]
  unfold Compact.attrList
  rw [hshown]
  cases fs with
  | nil => rfl
  | cons f fs =>
    show _ ++ ((f :: fs).map attr).flatMap _ = _
    rw [List.flatMap_map]
    rfl

theorem attrList_eq {fs : List Field} (hfs : ∀ f ∈ fs, f.Legible) :
    Compact.attrList "" (fs.map attr) ++ [.char '\n'] = (tail fs).map .char := by
  have hbody : fs.flatMap (fun f => .char ' ' :: Compact.attr f.attr) =
      (fs.flatMap fun f => ' ' :: f.spelled).map .char := by
    rw [List.map_flatMap]
    apply List.flatMap_congr
    intro f hf
    rw [List.map_cons, ← (hfs f hf).attr_eq]
  rw [attrList_fields, hbody, tail, List.map_append, List.map_append, List.append_assoc]
  split
  · rfl
  · rfl

/-! ## 3. The reader -/

def inKey (c : Char) : Bool := c ≠ '='

def inBare (c : Char) : Bool := c ≠ ' ' && c ≠ '\n'

/-- The value at the start of a text, and what stands behind it. -/
def readValue? : List Char → Option (List Char × List Char)
  | '"' :: cs => Text.unquoteFrom cs
  | cs => some (cs.takeWhile inBare, cs.dropWhile inBare)

/-- The field at the start of a text, and what stands behind it. -/
def read? (cs : List Char) : Option (Field × List Char) :=
  match cs.dropWhile inKey with
  | [] => none
  | _ :: behind =>
    match readValue? behind with
    | some (value, rest) => some (⟨.ofList (cs.takeWhile inKey), .ofList value⟩, rest)
    | none => none

theorem length_readValue? {cs value rest : List Char} (h : readValue? cs = some (value, rest)) :
    rest.length ≤ cs.length := by
  unfold readValue? at h
  split at h
  · have hshorter := Text.length_unquoteFrom h
    simp only [List.length_cons]
    omega
  · cases h
    exact (List.dropWhile_sublist _).length_le

theorem length_read? {cs rest : List Char} {f : Field} (h : read? cs = some (f, rest)) :
    rest.length < cs.length := by
  unfold read? at h
  have hshorter := (List.dropWhile_sublist (l := cs) inKey).length_le
  split at h
  · cases h
  · rename_i behind hbehind
    rw [hbehind, List.length_cons] at hshorter
    split at h
    · rename_i hread
      cases h
      have := length_readValue? hread
      omega
    · cases h

/-- Fields up to the end of the line, each behind a blank. -/
def readAll? : List Char → Option (List Field)
  | ['\n'] => some []
  | ' ' :: cs =>
    match _h : read? cs with
    | some (f, rest) => (readAll? rest).map (f :: ·)
    | none => none
  | _ => none
termination_by cs => cs.length
decreasing_by
  have := length_read? ‹_›
  simp only [List.length_cons]
  omega

/-- The fields that stand behind the message of a line. -/
def readTail? : List Char → Option (List Field)
  | ' ' :: '|' :: cs => readAll? cs
  | cs => readAll? cs

/-! ## 4. Reading undoes writing -/

theorem takeWhile_stop {p : Char → Bool} {cs : List Char} {c : Char} (hgo : ∀ d ∈ cs, p d = true)
    (hstop : p c = false) (rest : List Char) :
    (cs ++ c :: rest).takeWhile p = cs ∧ (cs ++ c :: rest).dropWhile p = c :: rest := by
  rw [List.takeWhile_append_of_pos hgo, List.dropWhile_append_of_pos hgo]
  simp [hstop]

/-- What may stand behind a value: the blank of the next field, or the end of the line. -/
def Ends (cs : List Char) : Prop := ∃ c rest, cs = c :: rest ∧ (c = ' ' ∨ c = '\n')

theorem readValue?_spelledValue (s : String) {rest : List Char} (hrest : Ends rest) :
    readValue? (spelledValue s ++ rest) = some (s.toList, rest) := by
  unfold spelledValue
  split
  · rw [List.cons_append, List.append_assoc]
    exact Text.unquoteFrom_quoted s.toList rest
  · rename_i hplain
    have hmarks : ∀ c ∈ s.toList, c ≠ ' ' ∧ c ≠ '\n' ∧ c ≠ '"' := by
      intro c hc
      have hmark : isMark c = false := by
        have hnone : ∀ c ∈ s.toList, isMark c = false := by simpa using hplain
        exact hnone c hc
      simp only [isMark, Bool.or_eq_false_iff, decide_eq_false_iff_not] at hmark
      obtain ⟨⟨⟨⟨hblank, -⟩, hline⟩, hquote⟩, -⟩ := hmark
      exact ⟨hblank, hline, hquote⟩
    have hgo : ∀ c ∈ s.toList, inBare c = true := by
      intro c hc
      obtain ⟨hblank, hline, -⟩ := hmarks c hc
      simp [inBare, hblank, hline]
    obtain ⟨c, rest, rfl, hc⟩ := hrest
    have hstop : inBare c = false := by
      rcases hc with rfl | rfl
      · rfl
      · rfl
    obtain ⟨htake, hdrop⟩ := takeWhile_stop hgo hstop rest
    rw [readValue?]
    · rw [htake, hdrop]
    · intro cs hcs
      -- The text does not begin with a quote: it holds none, and neither does a blank or an end of the line.
      cases hs : s.toList with
      | nil =>
        rw [hs, List.nil_append, List.cons.injEq] at hcs
        obtain ⟨rfl, -⟩ := hcs
        rcases hc with hc | hc
        · cases hc
        · cases hc
      | cons d ds =>
        rw [hs, List.cons_append, List.cons.injEq] at hcs
        exact (hmarks d (by simp [hs])).2.2 hcs.1

/-- **A field is read back**, and what follows it is read on its own. -/
theorem Legible.read?_spelled {f : Field} (hf : f.Legible) {rest : List Char} (hrest : Ends rest) :
    read? (f.spelled ++ rest) = some (f, rest) := by
  have hgo : ∀ c ∈ f.key.toList, inKey c = true := by
    intro c hc
    have hclear := hf.clear c hc
    simp only [List.mem_cons, not_or] at hclear
    exact decide_eq_true hclear.2.2.2.1
  obtain ⟨htake, hdrop⟩ := takeWhile_stop (c := '=') hgo rfl (spelledValue f.value ++ rest)
  have hspelled : f.spelled ++ rest = f.key.toList ++ '=' :: (spelledValue f.value ++ rest) := by
    rw [spelled, List.append_assoc, List.cons_append]
  rw [hspelled, read?, htake, hdrop]
  dsimp only
  rw [readValue?_spelledValue f.value hrest]
  dsimp only
  rw [String.ofList_toList, String.ofList_toList]

theorem readAll?_cons {cs rest : List Char} {f : Field} (h : read? cs = some (f, rest)) :
    readAll? (' ' :: cs) = (readAll? rest).map (f :: ·) := by
  rw [readAll?]
  split
  · rename_i hread
    rw [h] at hread
    cases hread
    rfl
  · rename_i hread
    rw [h] at hread
    cases hread

theorem readAll?_spelled {fs : List Field} (hfs : ∀ f ∈ fs, f.Legible) :
    readAll? (fs.flatMap (fun f => ' ' :: f.spelled) ++ ['\n']) = some fs := by
  induction fs with
  | nil => rw [List.flatMap_nil, List.nil_append, readAll?]
  | cons f fs ih =>
    have hends : Ends (fs.flatMap (fun f => ' ' :: f.spelled) ++ ['\n']) := by
      cases fs with
      | nil => exact ⟨'\n', [], rfl, Or.inr rfl⟩
      | cons g fs => exact ⟨' ', _, rfl, Or.inl rfl⟩
    rw [List.flatMap_cons, List.cons_append, List.cons_append, List.append_assoc,
      readAll?_cons ((hfs f (by simp)).read?_spelled hends), ih fun g hg => hfs g (by simp [hg])]
    rfl

/-- **What stands behind the message is read back to the fields.** -/
theorem readTail?_tail {fs : List Field} (hfs : ∀ f ∈ fs, f.Legible) : readTail? (tail fs) = some fs := by
  have hall := readAll?_spelled hfs
  unfold tail
  cases fs with
  | nil => exact hall
  | cons f fs =>
    rw [if_neg (by simp)]
    exact hall

end Field

/-! ## 5. Lines -/

/-- The handler has no open group, and the entry shows these fields behind its message. -/
structure Compact.Carries (h : Compact) (e : Entry) (fs : List Field) : Prop where
  ungrouped : h.group = ""
  listed : h.listed e = fs.map Field.attr
  legible : ∀ f ∈ fs, f.Legible

theorem Compact.Carries.line_eq {h : Compact} {e : Entry} {fs : List Field} (hc : h.Carries e fs)
    (clock : String) :
    h.line clock e = h.heading clock e ++ Loose.ofString (String.ofList (Field.tail fs)) := by
  rw [Compact.line_eq, hc.ungrouped, hc.listed, Field.attrList_eq hc.legible, Loose.ofString,
    String.toList_ofList]

/-- **The attributes of a compact line can be read back.** What stands behind the message is text, and reading it
    gives the fields that were attached to the handler or came with the entry. So two entries of the same level
    and message, logged at the same time under the same components, are never written with the same bytes if their
    fields differ. -/
theorem Compact.line_readable {h h' : Compact} {e e' : Entry} {fs fs' : List Field} (hc : h.Carries e fs)
    (hc' : h'.Carries e' fs') (hlevel : e.level = e'.level) (hmessage : e.message = e'.message)
    (hcomponents : (h.attrs.filter fun a => a.key = componentKey) =
      h'.attrs.filter fun a => a.key = componentKey) (clock : String) :
    (∃ tail : String, h.line clock e = h.heading clock e ++ Loose.ofString tail ∧
        Field.readTail? tail.toList = some fs) ∧
      ((h.line clock e).toBytes = (h'.line clock e').toBytes → fs = fs') := by
  refine ⟨⟨_, hc.line_eq clock, ?_⟩, ?_⟩
  · rw [String.toList_ofList]
    exact Field.readTail?_tail hc.legible
  · intro hbytes
    have hheading : h.heading clock e = h'.heading clock e' := by
      unfold Compact.heading
      rw [hlevel, hmessage, hcomponents]
    have hsplit : ∀ t u : Loose, (t ++ u).toBytes = t.toBytes ++ u.toBytes := fun t u => List.flatMap_append
    rw [hc.line_eq, hc'.line_eq, hheading, hsplit, hsplit] at hbytes
    -- The bytes of the tails are the same, and bytes of a text tell the text.
    have htails := congrArg Loose.ofBytes (List.append_cancel_left hbytes)
    rw [Loose.ofBytes_toBytes_ofString, Loose.ofBytes_toBytes_ofString] at htails
    have htails' := congrArg Loose.shownChars htails
    rw [Loose.shownChars_ofString, Loose.shownChars_ofString, String.toList_ofList, String.toList_ofList] at htails'
    have hread := Field.readTail?_tail hc.legible
    rw [htails', Field.readTail?_tail hc'.legible] at hread
    exact (Option.some.inj hread).symm

/-- A value that looks like a further attribute, attached to a handler with a component, and the two attributes that
    it looks like, one attached and one of the entry. -/
theorem Compact.line_readable_of_look_alikes :
    let web : Attr := ⟨componentKey, .text (Loose.ofString "web")⟩
    let one : Field := ⟨"a", "1 b=2"⟩
    let two : List Field := [⟨"a", "1"⟩, ⟨"b", "2"⟩]
    let h : Compact := { attrs := [web, one.attr] }
    let h' : Compact := { attrs := [⟨"a", .text (Loose.ofString "1")⟩, web] }
    let e : Entry := { message := "m" }
    let e' : Entry := { message := "m", attrs := [⟨"b", .text (Loose.ofString "2")⟩] }
    h.Carries e [one] ∧ h'.Carries e' two ∧
      (∃ tail : String, h.line "12:00:00" e = h.heading "12:00:00" e ++ Loose.ofString tail ∧
        Field.readTail? tail.toList = some [one]) ∧
      (h.line "12:00:00" e).toBytes ≠ (h'.line "12:00:00" e').toBytes := by
  intro web one two h h' e e'
  have hlegible : ∀ f ∈ one :: two, f.Legible := by
    intro f hf
    simp only [one, two, List.mem_cons, List.not_mem_nil, or_false] at hf
    rcases hf with rfl | rfl | rfl
    · exact ⟨by decide, by simp, by decide⟩
    · exact ⟨by decide, by simp, by decide⟩
    · exact ⟨by decide, by simp, by decide⟩
  have hc : h.Carries e [one] :=
    ⟨rfl, by decide, fun f hf => hlegible f (by simp [List.mem_singleton.1 hf])⟩
  have hc' : h'.Carries e' two :=
    ⟨rfl, by decide, fun f hf => hlegible f (List.mem_cons_of_mem _ hf)⟩
  have hreadable := Compact.line_readable hc hc' rfl rfl (by decide) "12:00:00"
  refine ⟨hc, hc', hreadable.1, ?_⟩
  intro hbytes
  have hsame := congrArg List.length (hreadable.2 hbytes)
  exact absurd hsame (by decide)

end CallCoupling.Log
