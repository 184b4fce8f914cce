import CallCoupling.Proofs.Log.Reading
import CallCoupling.Proofs.Text.Bytes

/-!
# An entry is one line

A log is read line by line, so an entry should be written as one line of text (`OneLine`). A value that is quoted
cannot break it, and neither can one that needs no quotes; but three places show a text as it is. The component of a
handler and a duration are written whole, so an end of line in them ends the line. A request identity is cut behind
its eighth byte, wherever that is: the cut may keep an end of line, and it may leave half a character.

`Compact.writes_one_line_iff` says that nothing else can happen. Whether the line is broken shows in its bytes. They
are as good as the text, for the line is settled, also where an identity is cut (`Field.settled_fields`).
-/

set_option autoImplicit false

namespace CallCoupling

/-! ## 1. Lines -/

/-- The bytes are well-formed text, and the end of line is their last byte and stands nowhere else. -/
structure OneLine (bytes : List UInt8) : Prop where
  text : bytes.toByteArray.IsValidUTF8
  last : bytes.getLast? = some 10
  once : bytes.count 10 = 1

namespace Loose

/-- No stray byte and no end of line. -/
def Unbroken (t : Loose) : Prop := ∀ g ∈ t, ∃ c, g = .char c ∧ c ≠ '\n'

theorem unbroken_append {t u : Loose} : Unbroken (t ++ u) ↔ Unbroken t ∧ Unbroken u := List.forall_mem_append

theorem unbroken_flatMap {α : Type} {l : List α} {f : α → Loose} :
    Unbroken (l.flatMap f) ↔ ∀ a ∈ l, Unbroken (f a) := by
  constructor
  · intro h a ha g hg
    exact h g (List.mem_flatMap.2 ⟨a, ha, hg⟩)
  · intro h g hg
    obtain ⟨a, ha, hg⟩ := List.mem_flatMap.1 hg
    exact h a ha g hg

theorem unbroken_ofString {s : String} : Unbroken (ofString s) ↔ '\n' ∉ s.toList := by
  simp only [Unbroken, ofString, List.forall_mem_map, Glyph.char.injEq, exists_eq_left']
  constructor
  · intro h hmem
    exact h _ hmem rfl
  · intro h c hc hline
    exact h (hline ▸ hc)

theorem unbroken_iff {t : Loose} : Unbroken t ↔ t.isText = true ∧ .char '\n' ∉ t := by
  constructor
  · intro h
    refine ⟨List.all_eq_true.2 fun g hg => ?_, fun hmem => ?_⟩
    · obtain ⟨c, rfl, -⟩ := h g hg
      rfl
    · obtain ⟨c, hc, hline⟩ := h _ hmem
      exact hline (Glyph.char.inj hc).symm
  · rintro ⟨htext, hline⟩ g hg
    cases g with
    | char c => exact ⟨c, rfl, fun hc => hline (hc ▸ hg)⟩
    | stray b => cases List.all_eq_true.1 htext _ hg

/-- **A text may be cut where a character ends.** -/
theorem unbroken_take {s : String} {n : Nat} (hn : n ≤ s.utf8ByteSize) :
    Unbroken (ofBytes ((ofString s).toBytes.take n)) ↔
      ∃ start rest : String, s = start ++ rest ∧ start.utf8ByteSize = n ∧ '\n' ∉ start.toList := by
  constructor
  · intro h
    obtain ⟨htext, -⟩ := unbroken_iff.1 h
    let start := (ofBytes ((ofString s).toBytes.take n)).shown
    have hstart : ofString start = ofBytes ((ofString s).toBytes.take n) := ofString_shown htext
    have hbytes : (ofString start).toBytes = (ofString s).toBytes.take n := by
      rw [hstart, toBytes_ofBytes]
    -- What is behind the cut is read on its own, and is text because all of `s` is.
    have hread : ofString s = ofString start ++ ofBytes ((ofString s).toBytes.drop n) := by
      rw [← ofBytes_toBytes_append, hbytes, List.take_append_drop, ofBytes_toBytes_ofString]
    have hrest : (ofBytes ((ofString s).toBytes.drop n)).isText = true := by
      have hall : (ofString s).isText = true := by simp [isText, ofString]
      rw [hread, isText, List.all_append, Bool.and_eq_true] at hall
      exact hall.2
    refine ⟨start, (ofBytes ((ofString s).toBytes.drop n)).shown, ?_, ?_, ?_⟩
    · apply ofString_inj
      rw [ofString_append, ofString_shown hrest]
      exact hread
    · rw [← length_toBytes_ofString, hbytes, List.length_take, length_toBytes_ofString]
      exact Nat.min_eq_left hn
    · rw [← unbroken_ofString, hstart]
      exact h
  · rintro ⟨start, rest, rfl, rfl, hline⟩
    rw [ofString_append, toBytes_append, List.take_left' (length_toBytes_ofString start), ofBytes_toBytes_ofString]
    exact unbroken_ofString.2 hline

/-- **A settled text ends in one line exactly if nothing before the end breaks it.** -/
theorem Settled.oneLine_iff {t : Loose} (ht : Settled t) : OneLine (t ++ [Glyph.char '\n']).toBytes ↔ Unbroken t := by
  have hbytes : (t ++ [Glyph.char '\n']).toBytes = t.toBytes ++ [10] := toBytes_append t _
  have hline : Settled (t ++ [Glyph.char '\n']) := ht.append (settled_ofString "\n") (by decide)
  have hcount : (t.toBytes ++ [10]).count 10 = 1 ↔ Glyph.char '\n' ∉ t := by
    rw [← ht.mem_toBytes_iff (by decide), List.count_append, List.count_singleton_self, Nat.add_eq_right,
      List.count_eq_zero]
    rfl
  have htext : (t ++ [Glyph.char '\n']).isText = t.isText := by simp [isText]
  rw [unbroken_iff, ← htext, ← hline.isValidUTF8_iff, ← hcount, ← hbytes]
  constructor
  · rintro ⟨htext, -, honce⟩
    exact ⟨htext, honce⟩
  · rintro ⟨htext, honce⟩
    exact ⟨htext, by rw [hbytes, List.getLast?_concat], honce⟩

end Loose

/-! ## 2. What stands in a line -/

namespace Text

theorem not_mem_hex (width n : Nat) : '\n' ∉ hex width n := by
  have hdigit : ∀ d < 16, hexDigit d ≠ '\n' := by decide
  induction width generalizing n with
  | zero => exact List.not_mem_nil
  | succ width ih =>
    rw [hex, List.mem_append, List.mem_singleton, not_or]
    exact ⟨ih _, (hdigit _ (Nat.mod_lt n (by omega))).symm⟩

theorem not_mem_quotedChar (c : Char) : '\n' ∉ quotedChar '"' c := by
  by_cases hline : c = '\n'
  · rw [hline]
    decide
  · intro hmem
    rcases quotedChar_cases c with ⟨letter, hspelled, -, hletter⟩ | ⟨letter, width, hspelled, hwidth, -⟩ |
      ⟨hspelled, -, -⟩
    · rw [hspelled, List.mem_cons, List.mem_singleton] at hmem
      rcases hmem with hmark | rfl
      · cases hmark
      · cases hletter
    · rw [hspelled, List.mem_cons, List.mem_cons] at hmem
      rcases hmem with hmark | rfl | hdigit
      · cases hmark
      · cases hwidth
      · exact not_mem_hex width _ hdigit
    · rw [hspelled, List.mem_singleton] at hmem
      exact hline hmem.symm

theorem not_mem_quotedGlyph (g : Glyph) : '\n' ∉ quotedGlyph '"' g := by
  cases g with
  | char c => exact not_mem_quotedChar c
  | stray b =>
    rw [quotedGlyph, List.mem_cons, List.mem_cons, not_or, not_or]
    exact ⟨by decide, by decide, not_mem_hex 2 _⟩

/-- **A quoted text breaks no line**, whatever it holds. -/
theorem not_mem_quotedLoose (t : Loose) : '\n' ∉ (quotedLoose t).toList := by
  rw [quotedLoose, String.toList_ofList]
  intro hmem
  simp only [List.cons_append, List.mem_cons, List.mem_append, List.mem_flatMap, List.not_mem_nil, or_false] at hmem
  rcases hmem with hquote | ⟨g, -, hg⟩ | hquote
  · cases hquote
  · exact not_mem_quotedGlyph g hg
  · cases hquote

end Text

theorem Moment.not_mem_clock (t : Moment) : '\n' ∉ t.clock.toList := by
  have hfixed : ∀ n, '\n' ∉ (Date.fixed 2 n).toList := by
    intro n hmem
    rw [Date.fixed, String.toList_ofList, Layout.padded, List.mem_append] at hmem
    rcases hmem with hzero | hdigit
    · cases (List.mem_replicate.1 hzero).2
    · cases Integer.isDigit_of_mem_toDigits _ hdigit
  unfold clock
  simp [String.toList_append, hfixed]

theorem Log.Compact.not_mem_mark (level : Log.Level) : '\n' ∉ (Log.Compact.mark level).toList := by
  unfold Log.Compact.mark
  split_ifs
  all_goals decide

/-! ## 3. Fields -/

namespace Log

open Loose (Unbroken Settled)

namespace Field

/-- The value breaks no line under its key: an identity that is cut is cut behind a character, and what is shown as
    it is holds no end of line. -/
structure Fits (f : Field) : Prop where
  duration : f.key = "durationMs" → '\n' ∉ f.value.toList
  identity : f.key = "requestID" → Compact.identityBytes < f.value.utf8ByteSize →
    ∃ start rest : String, f.value = start ++ rest ∧ start.utf8ByteSize = Compact.identityBytes ∧
      '\n' ∉ start.toList

theorem fits_of_ordinary {f : Field} (hduration : f.key ≠ "durationMs") (hidentity : f.key ≠ "requestID") : f.Fits :=
  ⟨fun h => absurd h hduration, fun h => absurd h hidentity⟩

theorem not_mem_spelledValue (s : String) : '\n' ∉ spelledValue s := by
  unfold spelledValue
  split
  · rw [← Text.toList_quotedLoose_ofString]
    exact Text.not_mem_quotedLoose _
  · rename_i hplain
    intro hmem
    exact hplain (List.any_eq_true.2 ⟨'\n', hmem, rfl⟩)

/-- **The three ways in which a field is written.** -/
theorem attr_cases (f : Field) :
    (f.key = "requestID" ∧ Compact.identityBytes < f.value.utf8ByteSize ∧
        Compact.attr f.attr = Loose.ofString "req=" ++
          Loose.ofBytes ((Loose.ofString f.value).toBytes.take Compact.identityBytes)) ∨
      (f.key = "durationMs" ∧ Compact.attr f.attr = Loose.ofString ("duration=" ++ f.value ++ "ms")) ∨
      (f.Fits ∧ ∃ s : String, Compact.attr f.attr = Loose.ofString s ∧
        ('\n' ∈ s.toList → '\n' ∈ f.key.toList)) := by
  have hplain : ∃ s : String, Compact.plainAttr f.attr = Loose.ofString s ∧
      ('\n' ∈ s.toList → '\n' ∈ f.key.toList) := by
    refine ⟨String.ofList f.spelled, ?_, ?_⟩
    · rw [plainAttr_eq, Loose.ofString, String.toList_ofList]
    · intro hmem
      rw [String.toList_ofList, spelled, List.mem_append, List.mem_cons] at hmem
      rcases hmem with hkey | hequals | hvalue
      · exact hkey
      · cases hequals
      · exact absurd hvalue (not_mem_spelledValue f.value)
  have hshort : Compact.shortIdentity? f.attr.value =
      if Compact.identityBytes < f.value.utf8ByteSize then
        some (Loose.ofString "req=" ++
          Loose.ofBytes ((Loose.ofString f.value).toBytes.take Compact.identityBytes))
      else none := by
    rw [← Loose.length_toBytes_ofString]
    rfl
  obtain ⟨key, value⟩ := f
  unfold Compact.attr
  split
  · rename_i hkey
    obtain rfl : key = "requestID" := hkey
    by_cases hlong : Compact.identityBytes < value.utf8ByteSize
    · rw [hshort, if_pos hlong]
      exact Or.inl ⟨rfl, hlong, rfl⟩
    · rw [hshort, if_neg hlong]
      exact Or.inr (Or.inr ⟨⟨by simp, fun _ h => absurd h hlong⟩, hplain⟩)
  · rename_i hkey
    obtain rfl : key = "durationMs" := hkey
    refine Or.inr (Or.inl ⟨rfl, ?_⟩)
    rw [Loose.ofString_append, Loose.ofString_append]
    rfl
  · rename_i hkey
    obtain rfl : key = "error" := hkey
    refine Or.inr (Or.inr ⟨fits_of_ordinary (by simp) (by simp), _, rfl, ?_⟩)
    intro hmem
    rw [String.toList_append, List.mem_append] at hmem
    rcases hmem with hmem | hmem
    · exact absurd hmem (by decide)
    · exact absurd hmem (Text.not_mem_quotedLoose _)
  · rename_i hidentity hduration herror
    exact Or.inr (Or.inr ⟨fits_of_ordinary hduration hidentity, hplain⟩)

theorem settled_attr (f : Field) : Settled (Compact.attr f.attr) := by
  rcases f.attr_cases with ⟨-, -, hattr⟩ | ⟨-, hattr⟩ | ⟨-, s, hattr, -⟩
  · rw [hattr]
    exact (Loose.settled_ofBytes _).ofString_append "req="
  · rw [hattr]
    exact Loose.settled_ofString _
  · rw [hattr]
    exact Loose.settled_ofString s

/-- **A field breaks the line exactly if its value does.** -/
theorem unbroken_attr_iff {f : Field} (hkey : '\n' ∉ f.key.toList) : Unbroken (Compact.attr f.attr) ↔ f.Fits := by
  rcases f.attr_cases with ⟨hidentity, hlong, hattr⟩ | ⟨hduration, hattr⟩ | ⟨hfits, s, hattr, hline⟩
  · have hlabel : Unbroken (Loose.ofString "req=") := Loose.unbroken_ofString.2 (by decide)
    rw [hattr, Loose.unbroken_append, Loose.unbroken_take hlong.le]
    constructor
    · rintro ⟨-, hcut⟩
      exact ⟨fun h => absurd (hidentity.symm.trans h) (by decide), fun _ _ => hcut⟩
    · intro hfits
      exact ⟨hlabel, hfits.identity hidentity hlong⟩
  · have hmem : '\n' ∉ ("duration=" ++ f.value ++ "ms").toList ↔ '\n' ∉ f.value.toList := by
      simp [String.toList_append]
    rw [hattr, Loose.unbroken_ofString, hmem]
    constructor
    · intro hvalue
      exact ⟨fun _ => hvalue, fun h => absurd (hduration.symm.trans h) (by decide)⟩
    · intro hfits
      exact hfits.duration hduration
  · rw [hattr, Loose.unbroken_ofString]
    exact ⟨fun _ => hfits, fun _ hmem => hkey (hline hmem)⟩

/-- **Fields are settled side by side**, since each starts with a blank. -/
theorem settled_fields (fs : List Field) : Settled (fs.flatMap fun f => .char ' ' :: Compact.attr f.attr) := by
  induction fs with
  | nil => exact Loose.settled_ofString ""
  | cons f fs ih =>
    have hfirst : Settled (.char ' ' :: Compact.attr f.attr) := f.settled_attr.ofString_append " "
    cases fs with
    | nil =>
      rw [List.flatMap_singleton]
      exact hfirst
    | cons g fs => exact hfirst.append ih (by decide)

end Field

/-! ## 4. Entries -/

/-- A handler without group and an entry have nothing but texts to show, and no end of line outside the values.
    `attached` are the fields of the handler, components among them, and `given` those of the entry. -/
structure Compact.Textual (h : Compact) (e : Entry) (attached given : List Field) : Prop where
  ungrouped : h.group = ""
  handler : h.attrs = attached.map Field.attr
  entry : e.attrs = given.map Field.attr
  message : '\n' ∉ e.message.toList
  keys : ∀ f ∈ attached ++ given, '\n' ∉ f.key.toList

namespace Compact

section

variable {h : Compact} {e : Entry} {attached given : List Field}

/-- The fields behind the message. -/
def shownFields (attached given : List Field) : List Field :=
  (attached.filter fun f => f.key ≠ componentKey) ++ given

theorem Textual.listed_eq (ht : h.Textual e attached given) :
    h.listed e = (shownFields attached given).map Field.attr := by
  rw [listed, ht.handler, ht.entry, List.filter_map, shownFields, List.map_append]
  rfl

theorem Textual.heading_eq (ht : h.Textual e attached given) (clock : String) :
    h.heading clock e = Loose.ofString (mark e.level ++ clock ++ " ") ++
      (attached.filter fun f => f.key = componentKey).flatMap
        (fun f => Loose.ofString ("[" ++ f.value ++ "] ")) ++ Loose.ofString e.message := by
  have hcomponent : (fun f : Field => component f.attr.value) = fun f => Loose.ofString ("[" ++ f.value ++ "] ") := by
    funext f
    rw [Loose.ofString_append, Loose.ofString_append]
    rfl
  rw [heading, ht.handler, List.filter_map, List.flatMap_map, hcomponent]
  rfl

theorem Textual.isText_heading (ht : h.Textual e attached given) (clock : String) :
    (h.heading clock e).isText = true := by
  rw [ht.heading_eq]
  simp [Loose.isText, Loose.ofString]

theorem Textual.unbroken_heading_iff (ht : h.Textual e attached given) (t : Moment) :
    Unbroken (h.heading t.clock e) ↔ ∀ f ∈ attached, f.key = componentKey → '\n' ∉ f.value.toList := by
  have hstart : Unbroken (Loose.ofString (mark e.level ++ t.clock ++ " ")) := by
    rw [Loose.unbroken_ofString]
    simp [String.toList_append, not_mem_mark, t.not_mem_clock]
  have hcomponent : ∀ value : String, '\n' ∉ ("[" ++ value ++ "] ").toList ↔ '\n' ∉ value.toList := by
    intro value
    simp [String.toList_append]
  rw [ht.heading_eq, Loose.unbroken_append, Loose.unbroken_append, Loose.unbroken_flatMap]
  simp only [Loose.unbroken_ofString, hcomponent]
  constructor
  · rintro ⟨⟨-, hcomponents⟩, -⟩ f hf hkey
    exact hcomponents f (List.mem_filter.2 ⟨hf, decide_eq_true hkey⟩)
  · intro hcomponents
    refine ⟨⟨Loose.unbroken_ofString.1 hstart, fun f hf => ?_⟩, ht.message⟩
    obtain ⟨hf, hkey⟩ := List.mem_filter.1 hf
    exact hcomponents f hf (of_decide_eq_true hkey)

/-- A component is not shown behind the message, and nothing is asked of its value there. -/
theorem Textual.unbroken_attrList_iff (ht : h.Textual e attached given) :
    Unbroken (attrList h.group (h.listed e)) ↔ ∀ f ∈ attached ++ given, f.Fits := by
  have hmem : ∀ f, f ∈ shownFields attached given ↔ f ∈ attached ∧ f.key ≠ componentKey ∨ f ∈ given := by
    intro f
    rw [shownFields, List.mem_append, List.mem_filter, decide_eq_true_iff]
  have hbar : Unbroken (if shownFields attached given = [] then [] else Loose.ofString " |") := by
    split
    · exact Loose.unbroken_ofString (s := "").2 (by decide)
    · exact Loose.unbroken_ofString.2 (by decide)
  have hfield : ∀ f ∈ attached ++ given, Unbroken (.char ' ' :: Compact.attr f.attr) ↔ f.Fits := by
    intro f hf
    rw [← Field.unbroken_attr_iff (ht.keys f hf)]
    exact Loose.unbroken_append.trans (and_iff_right (Loose.unbroken_ofString (s := " ").2 (by decide)))
  rw [ht.ungrouped, ht.listed_eq, Field.attrList_fields, Loose.unbroken_append, Loose.unbroken_flatMap]
  constructor
  · rintro ⟨-, hfields⟩ f hf
    by_cases hkey : f.key = componentKey
    · exact Field.fits_of_ordinary (by rw [hkey]; decide) (by rw [hkey]; decide)
    · refine (hfield f hf).1 (hfields f ((hmem f).2 ?_))
      exact (List.mem_append.1 hf).imp_left fun hf => ⟨hf, hkey⟩
  · intro hfits
    refine ⟨hbar, fun f hf => ?_⟩
    have hf' : f ∈ attached ++ given := List.mem_append.2 (((hmem f).1 hf).imp_left And.left)
    exact (hfield f hf').2 (hfits f hf')

theorem Textual.settled (ht : h.Textual e attached given) (clock : String) :
    Settled (h.heading clock e ++ attrList h.group (h.listed e)) := by
  rw [← Loose.ofString_shown (ht.isText_heading clock), ht.ungrouped, ht.listed_eq, Field.attrList_fields]
  refine Settled.ofString_append _ ?_
  split
  · exact Field.settled_fields _
  · exact (Field.settled_fields _).ofString_append " |"

/-- **An entry is one line exactly if no value breaks it**: no component and no duration holds an end of line, and a
    request identity that is cut is cut behind a character and before any end of line. What stands under other keys
    does not matter. -/
theorem writes_one_line_iff (ht : h.Textual e attached given) (t : Moment) :
    OneLine (h.line t.clock e).toBytes ↔
      (∀ f ∈ attached, f.key = componentKey → '\n' ∉ f.value.toList) ∧ ∀ f ∈ attached ++ given, f.Fits := by
  rw [line_eq, ← List.append_assoc, (ht.settled t.clock).oneLine_iff, Loose.unbroken_append,
    ht.unbroken_heading_iff, ht.unbroken_attrList_iff]

end

/-- Every kind of value that could break the line and does not: an identity that is cut behind a letter of two bytes,
    and ends of line where they are quoted. -/
theorem writes_one_line_iff_of_awkward_values :
    let attached : List Field := [⟨componentKey, "web"⟩, ⟨"requestID", "abcdefé-gh\nij"⟩]
    let given : List Field := [⟨componentKey, "a\nb"⟩, ⟨"error", "no\nway"⟩, ⟨"durationMs", "12"⟩, ⟨"k", "x\n=\"y\""⟩]
    let h : Compact := { attrs := attached.map Field.attr }
    let e : Entry := { message := "m", attrs := given.map Field.attr }
    h.Textual e attached given ∧ OneLine (h.line (⟨0⟩ : Moment).clock e).toBytes := by
  intro attached given h e
  have ht : h.Textual e attached given := ⟨rfl, rfl, rfl, by decide, by decide⟩
  refine ⟨ht, (writes_one_line_iff ht ⟨0⟩).2 ⟨by decide, ?_⟩⟩
  intro f hf
  refine ⟨?_, ?_⟩
  · revert f
    decide
  · intro hkey _
    have hidentity : f = ⟨"requestID", "abcdefé-gh\nij"⟩ := by
      revert f
      decide
    rw [hidentity]
    exact ⟨"abcdefé", "-gh\nij", rfl, rfl, by decide⟩

/-- An identity whose eighth byte is the first of a letter of two bytes leaves half of the letter, and a duration
    with an end of line leaves two lines. -/
theorem cut_identity_breaks_line :
    let identity : Field := ⟨"requestID", "abcdefgéhij"⟩
    let duration : Field := ⟨"durationMs", "1\n2"⟩
    let h : Compact := {}
    let e : Entry := { message := "m", attrs := [identity.attr] }
    let e' : Entry := { message := "m", attrs := [duration.attr] }
    (h.Textual e [] [identity] ∧
        h.line (⟨0⟩ : Moment).clock e =
          Loose.ofString "[INFO]  00:00:00 m | req=abcdefg" ++ [.stray 0xC3, .char '\n'] ∧
        ¬ OneLine (h.line (⟨0⟩ : Moment).clock e).toBytes) ∧
      (h.Textual e' [] [duration] ∧
        h.line (⟨0⟩ : Moment).clock e' = Loose.ofString "[INFO]  00:00:00 m | duration=1\n2ms\n" ∧
        ¬ OneLine (h.line (⟨0⟩ : Moment).clock e').toBytes) := by
  intro identity duration h e e'
  have hidentity : h.line (⟨0⟩ : Moment).clock e =
      Loose.ofString "[INFO]  00:00:00 m | req=abcdefg" ++ [.stray 0xC3, .char '\n'] := by
    decide +kernel
  have hduration : h.line (⟨0⟩ : Moment).clock e' =
      Loose.ofString "[INFO]  00:00:00 m | duration=1\n2ms\n" := by
    decide +kernel
  refine ⟨⟨⟨rfl, rfl, rfl, by decide, by decide⟩, hidentity, ?_⟩,
    ⟨⟨rfl, rfl, rfl, by decide, by decide⟩, hduration, ?_⟩⟩
  · intro hline
    have htext := hline.text
    rw [hidentity] at htext
    revert htext
    decide
  · intro hline
    have honce := hline.once
    rw [hduration] at honce
    revert honce
    decide

end Compact

end Log

end CallCoupling
