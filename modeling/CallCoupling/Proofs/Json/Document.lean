import CallCoupling.Json.Reader
import CallCoupling.Json.Writer
import CallCoupling.Proofs.Json.Spelled

/-!
# What a document is

A grammar for JSON that does not speak of the reader. A value is proper if its numbers and its spellings are ones of
the format (`Json.Proper`); it has tokens, in the order a text shows them (`Json.tokens`); and a text spells the value
if it is made of these tokens with any blanks around them (`Json.Spells`). What is written for a proper value spells it
(`Proper.spells_compactChars`).

How deep a value nests is counted apart (`Json.depth`), since the format has no limit and only the reader has one.

A value is a tree with lists inside, so an induction over it goes through `Json.ind`: what holds of all items, or of
the values of all fields, holds of the container.
-/

set_option autoImplicit false

namespace CallCoupling.Json

/-- The numbers of the value are numbers, and its strings are spelled as strings. -/
inductive Proper : Json → Prop where
  | null : Proper .null
  | bool (b : Bool) : Proper (.bool b)
  | number {l : String} (h : Token.numberOk l.toList = true) : Proper (.number l)
  | string {s : List Char} (h : Spelled s) : Proper (.string s)
  | array {items : List Json} (h : ∀ v ∈ items, Proper v) : Proper (.array items)
  | object {fields : List (List Char × Json)} (hnames : ∀ field ∈ fields, Spelled field.1)
    (h : ∀ field ∈ fields, Proper field.2) : Proper (.object fields)

mutual

/-- How many containers stand inside each other. -/
def depth : Json → Nat
  | .null => 0
  | .bool _ => 0
  | .number _ => 0
  | .string _ => 0
  | .array items => depthOfItems items + 1
  | .object fields => depthOfFields fields + 1

def depthOfItems : List Json → Nat
  | [] => 0
  | v :: vs => max v.depth (depthOfItems vs)

def depthOfFields : List (List Char × Json) → Nat
  | [] => 0
  | (_, v) :: rest => max v.depth (depthOfFields rest)

end

/-! ## 1. Tokens -/

mutual

/-- The tokens of a value. -/
def tokens : Json → List Token
  | .null => [.null]
  | .bool b => [.bool b]
  | .number l => [.number l]
  | .string s => [.string s]
  | .array [] => [.mark '[', .mark ']']
  | .array (v :: vs) => .mark '[' :: tokens v ++ itemTokens vs
  | .object [] => [.mark openBrace, .mark closeBrace]
  | .object ((k, v) :: rest) =>
    .mark openBrace :: .string k :: .mark ':' :: tokens v ++ fieldTokens rest

/-- The tokens of further items up to the end of the array. -/
def itemTokens : List Json → List Token
  | [] => [.mark ']']
  | v :: vs => .mark ',' :: tokens v ++ itemTokens vs

/-- The tokens of further fields up to the end of the object. -/
def fieldTokens : List (List Char × Json) → List Token
  | [] => [.mark closeBrace]
  | (k, v) :: rest => .mark ',' :: .string k :: .mark ':' :: tokens v ++ fieldTokens rest

end

namespace Token

/-- The characters of a token. -/
def spelling : Token → List Char
  | .mark c => [c]
  | .null => "null".toList
  | .bool true => "true".toList
  | .bool false => "false".toList
  | .number l => l.toList
  | .string s => quotedSpelling s

/-- The token is one of the format. -/
def Proper : Token → Prop
  | .mark c => isMark c = true
  | .null => True
  | .bool _ => True
  | .number l => numberOk l.toList = true
  | .string s => Spelled s

end Token

/-- The text is made of the tokens, with any blanks around them. -/
inductive Spaced : List Token → List Char → Prop where
  | nil {blanks : List Char} (hblanks : ∀ c ∈ blanks, Token.isSpace c = true) : Spaced [] blanks
  | cons {blanks : List Char} (hblanks : ∀ c ∈ blanks, Token.isSpace c = true) (t : Token) {ts : List Token}
    {rest : List Char} (h : Spaced ts rest) : Spaced (t :: ts) (blanks ++ (t.spelling ++ rest))

/-- **The text spells the value.** -/
structure Spells (v : Json) (text : List Char) : Prop where
  proper : v.Proper
  spaced : Spaced (tokens v) text

/-- Induction over a value: a container by all that it holds. -/
@[elab_as_elim]
theorem ind {motive : Json → Prop} (null : motive .null) (bool : ∀ b, motive (.bool b))
    (number : ∀ l, motive (.number l)) (string : ∀ s, motive (.string s))
    (array : ∀ items, (∀ v ∈ items, motive v) → motive (.array items))
    (object : ∀ fields, (∀ field ∈ fields, motive field.2) → motive (.object fields)) :
    ∀ v, motive v
  | .null => null
  | .bool b => bool b
  | .number l => number l
  | .string s => string s
  | .array items => array items fun v _ => ind null bool number string array object v
  | .object fields => object fields fun field _ => ind null bool number string array object field.2
termination_by v => sizeOf v
decreasing_by
  · have := List.sizeOf_lt_of_mem ‹v ∈ items›
    simp only [Json.array.sizeOf_spec]
    omega
  · have := List.sizeOf_lt_of_mem ‹field ∈ fields›
    obtain ⟨k, v⟩ := field
    simp only [Json.object.sizeOf_spec, Prod.mk.sizeOf_spec] at this ⊢
    omega

/-! ## 2. The tokens of a proper value -/

theorem proper_itemTokens (vs : List Json) :
    (∀ t ∈ itemTokens vs, t.Proper) ↔ ∀ v ∈ vs, ∀ t ∈ tokens v, t.Proper := by
  induction vs with
  | nil => simp [itemTokens, Token.Proper, Token.isMark]
  | cons v vs ih =>
    have hcomma : (Token.mark ',').Proper := rfl
    simp only [itemTokens, List.cons_append, List.forall_mem_cons, List.forall_mem_append, ih]
    exact and_iff_right hcomma

theorem proper_fieldTokens (fields : List (List Char × Json)) :
    (∀ t ∈ fieldTokens fields, t.Proper) ↔
      ∀ field ∈ fields, Spelled field.1 ∧ ∀ t ∈ tokens field.2, t.Proper := by
  induction fields with
  | nil => simp [fieldTokens, Token.Proper, Token.isMark, closeBrace]
  | cons field fields ih =>
    obtain ⟨k, v⟩ := field
    have hcomma : (Token.mark ',').Proper := rfl
    have hcolon : (Token.mark ':').Proper := rfl
    have hname : (Token.string k).Proper ↔ Spelled k := Iff.rfl
    simp only [fieldTokens, List.cons_append, List.forall_mem_cons, List.forall_mem_append, ih, hname]
    tauto

theorem proper_arrayTokens (items : List Json) :
    (∀ t ∈ tokens (.array items), t.Proper) ↔ ∀ v ∈ items, ∀ t ∈ tokens v, t.Proper := by
  have hopen : (Token.mark '[').Proper := rfl
  have hclose : (Token.mark ']').Proper := rfl
  cases items with
  | nil => simp [tokens, hopen, hclose]
  | cons v vs =>
    simp only [tokens, List.cons_append, List.forall_mem_cons, List.forall_mem_append, proper_itemTokens]
    exact and_iff_right hopen

theorem proper_objectTokens (fields : List (List Char × Json)) :
    (∀ t ∈ tokens (.object fields), t.Proper) ↔
      ∀ field ∈ fields, Spelled field.1 ∧ ∀ t ∈ tokens field.2, t.Proper := by
  have hopen : (Token.mark openBrace).Proper := rfl
  have hclose : (Token.mark closeBrace).Proper := rfl
  have hcolon : (Token.mark ':').Proper := rfl
  cases fields with
  | nil => simp [tokens, hopen, hclose]
  | cons field fields =>
    obtain ⟨k, v⟩ := field
    have hname : (Token.string k).Proper ↔ Spelled k := Iff.rfl
    simp only [tokens, List.cons_append, List.forall_mem_cons, List.forall_mem_append, proper_fieldTokens, hname]
    tauto

/-- **A value is proper if its tokens are.** -/
theorem proper_iff (v : Json) : v.Proper ↔ ∀ t ∈ tokens v, t.Proper := by
  induction v using ind with
  | null => exact iff_of_true .null (by simp [tokens, Token.Proper])
  | bool b => exact iff_of_true (.bool b) (by simp [tokens, Token.Proper])
  | number l =>
    simp only [tokens, List.forall_mem_singleton]
    exact ⟨fun h => by cases h; assumption, .number⟩
  | string s =>
    simp only [tokens, List.forall_mem_singleton]
    exact ⟨fun h => by cases h; assumption, .string⟩
  | array items ih =>
    rw [proper_arrayTokens]
    constructor
    · intro h v hv
      cases h with
      | array h => exact (ih v hv).1 (h v hv)
    · exact fun h => .array fun v hv => (ih v hv).2 (h v hv)
  | object fields ih =>
    rw [proper_objectTokens]
    constructor
    · intro h field hfield
      cases h with
      | object hnames h => exact ⟨hnames field hfield, (ih field hfield).1 (h field hfield)⟩
    · exact fun h => .object (fun field hfield => (h field hfield).1)
        fun field hfield => (ih field hfield).2 (h field hfield).2

/-! ## 3. Numbers -/

namespace Token

theorem inNumber_of_isDigit {c : Char} (hc : c.isDigit = true) : inNumber c = true := by
  simp [inNumber, hc]

theorem inNumber_of_digitsOnly {s : List Char} (h : digitsOnly s = true) : ∀ c ∈ s, inNumber c = true := by
  simp only [digitsOnly, Bool.and_eq_true, List.all_eq_true] at h
  exact fun c hc => inNumber_of_isDigit (h.2 c hc)

theorem inNumber_of_exponentOk {s : List Char} (h : exponentOk s = true) : ∀ c ∈ s, inNumber c = true := by
  cases s with
  | nil => simp
  | cons e rest =>
    simp only [exponentOk, Bool.and_eq_true, Bool.or_eq_true, decide_eq_true_eq] at h
    obtain ⟨he, hrest⟩ := h
    refine List.forall_mem_cons.2 ⟨by rcases he with rfl | rfl <;> rfl, ?_⟩
    split at hrest
    · exact List.forall_mem_cons.2 ⟨rfl, inNumber_of_digitsOnly hrest⟩
    · exact List.forall_mem_cons.2 ⟨rfl, inNumber_of_digitsOnly hrest⟩
    · exact inNumber_of_digitsOnly hrest

/-- A run of digits with something of a number behind it. -/
theorem inNumber_of_run {p : List Char → Bool} (hp : ∀ {s}, p s = true → ∀ c ∈ s, inNumber c = true) {s : List Char}
    (h : p (s.dropWhile Char.isDigit) = true) : ∀ c ∈ s, inNumber c = true := by
  intro c hc
  rw [← List.takeWhile_append_dropWhile (p := Char.isDigit) (l := s), List.mem_append] at hc
  rcases hc with hc | hc
  · exact inNumber_of_isDigit (List.mem_takeWhile_imp hc)
  · exact hp h c hc

theorem inNumber_of_fractionOk {s : List Char} (h : fractionOk s = true) : ∀ c ∈ s, inNumber c = true := by
  unfold fractionOk at h
  split at h
  · simp only [Bool.and_eq_true] at h
    exact List.forall_mem_cons.2 ⟨rfl, inNumber_of_run inNumber_of_exponentOk h.2⟩
  · exact inNumber_of_exponentOk h

/-- A number without its sign begins with a digit. -/
theorem inNumber_of_magnitudeOk {s : List Char} (h : magnitudeOk s = true) :
    (∃ c cs, s = c :: cs ∧ c.isDigit = true) ∧ ∀ c ∈ s, inNumber c = true := by
  unfold magnitudeOk at h
  split at h
  · exact ⟨⟨'0', _, rfl, rfl⟩, List.forall_mem_cons.2 ⟨rfl, inNumber_of_fractionOk h⟩⟩
  · simp only [Bool.and_eq_true, Bool.not_eq_true', List.isEmpty_eq_false_iff] at h
    refine ⟨?_, inNumber_of_run inNumber_of_fractionOk h.2⟩
    cases s with
    | nil => exact absurd rfl h.1
    | cons c cs =>
      refine ⟨c, cs, rfl, ?_⟩
      by_contra hc
      simp [hc] at h

/-- **What a number looks like**: it begins with a digit or a minus, and all of it can stand in a number. -/
theorem exists_of_numberOk {s : List Char} (h : numberOk s = true) :
    ∃ c cs, s = c :: cs ∧ (c.isDigit = true ∨ c = '-') ∧ ∀ c ∈ s, inNumber c = true := by
  unfold numberOk at h
  split at h
  · exact ⟨'-', _, rfl, Or.inr rfl, List.forall_mem_cons.2 ⟨rfl, (inNumber_of_magnitudeOk h).2⟩⟩
  · obtain ⟨⟨c, cs, hcons, hc⟩, hall⟩ := inNumber_of_magnitudeOk h
    exact ⟨c, cs, hcons, Or.inl hc, hall⟩

theorem toNat_of_inNumber {c : Char} (hc : inNumber c = true) : 0x20 ≤ c.toNat := by
  simp only [inNumber, Bool.or_eq_true, decide_eq_true_eq] at hc
  rcases hc with ((((hc | rfl) | rfl) | rfl) | rfl) | rfl
  · have := Char.isDigit_iff_toNat.1 hc
    simp only [Char.reduceToNat] at this
    omega
  all_goals decide

end Token

/-! ## 4. What is written -/

mutual

/-- **A value is written token by token.** -/
theorem compactChars_eq (v : Json) : compactChars v = (tokens v).flatMap Token.spelling := by
  cases v with
  | null => simp [compactChars, tokens, Token.spelling]
  | bool b => cases b <;> simp [compactChars, tokens, Token.spelling]
  | number l => simp [compactChars, tokens, Token.spelling]
  | string s => simp [compactChars, tokens, Token.spelling]
  | array items =>
    cases items with
    | nil => rfl
    | cons v vs =>
      simp only [compactChars, tokens, List.cons_append, List.flatMap_cons, List.flatMap_append, compactChars_eq v,
        compactItems_eq vs]
      rfl
  | object fields =>
    cases fields with
    | nil => rfl
    | cons field fields =>
      obtain ⟨k, v⟩ := field
      simp only [compactChars, tokens, List.cons_append, List.append_assoc, List.flatMap_cons, List.flatMap_append,
        compactChars_eq v, compactFields_eq fields]
      rfl

theorem compactItems_eq (vs : List Json) : compactItems vs = (itemTokens vs).flatMap Token.spelling := by
  cases vs with
  | nil => rfl
  | cons v vs =>
    simp only [compactItems, itemTokens, List.cons_append, List.flatMap_cons, List.flatMap_append, compactChars_eq v,
      compactItems_eq vs]
    rfl

theorem compactFields_eq (fields : List (List Char × Json)) :
    compactFields fields = (fieldTokens fields).flatMap Token.spelling := by
  cases fields with
  | nil => rfl
  | cons field fields =>
    obtain ⟨k, v⟩ := field
    simp only [compactFields, fieldTokens, List.cons_append, List.append_assoc, List.flatMap_cons, List.flatMap_append,
      compactChars_eq v, compactFields_eq fields]
    rfl

end

theorem toList_compact (v : Json) : v.compact.toList = v.compactChars := String.toList_ofList

theorem spaced_flatMap (ts : List Token) : Spaced ts (ts.flatMap Token.spelling) := by
  induction ts with
  | nil => exact .nil (by simp)
  | cons t ts ih => exact Spaced.cons (List.forall_mem_nil _) t ih

/-- **What is written spells the value.** -/
theorem Proper.spells_compactChars {v : Json} (h : v.Proper) : v.Spells v.compactChars :=
  ⟨h, compactChars_eq v ▸ spaced_flatMap (tokens v)⟩

theorem Token.Proper.visible {t : Token} (h : t.Proper) : ∀ c ∈ t.spelling, 0x20 ≤ c.toNat := by
  cases t with
  | mark c =>
    have hc : isMark c = true := h
    simp only [isMark, Bool.or_eq_true, decide_eq_true_eq] at hc
    refine List.forall_mem_singleton.2 ?_
    rcases hc with ((((rfl | rfl) | rfl) | rfl) | hc) | hc
    · decide
    · decide
    · decide
    · decide
    · omega
    · omega
  | null => simp [spelling]
  | bool b => cases b <;> simp [spelling]
  | number l =>
    obtain ⟨-, -, -, -, hall⟩ := exists_of_numberOk h
    exact fun c hc => toNat_of_inNumber (hall c hc)
  | string s =>
    have hs : Spelled s := h
    intro c hc
    simp only [spelling, quotedSpelling, List.cons_append, List.mem_cons, List.mem_append, List.not_mem_nil,
      or_false] at hc
    rcases hc with rfl | hc | rfl
    · decide
    · exact hs.visible c hc
    · decide

/-- **No control is written**, so no end of a line is. -/
theorem Proper.visible {v : Json} (h : v.Proper) : ∀ c ∈ v.compactChars, 0x20 ≤ c.toNat := by
  intro c hc
  rw [compactChars_eq, List.mem_flatMap] at hc
  obtain ⟨t, ht, hc⟩ := hc
  exact ((proper_iff v).1 h t ht).visible c hc

end CallCoupling.Json
