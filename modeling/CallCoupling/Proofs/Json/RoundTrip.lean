import CallCoupling.Proofs.Json.Document
import Mathlib

/-!
# A value is read back from its text

A text that spells a value is read to that value, however its blanks stand (`Json.Spells.read?_eq`), and the reader
with the limit takes it if it does not nest too deep (`Json.Spells.parse?_eq`). So a value that was made from texts
and whole numbers is written and read back as it was (`Json.Plain.parse?_compactChars`), spelling included.

Reading is cut in two and so is the proof. The scanner cuts the text into the tokens of the value
(`Spells.scan_eq`), and the machine makes the value from them (`run_tokens`). The scanner goes token by token. A
number or a word ends only where something else begins, so behind it must stand nothing, a blank or a mark
(`Token.Free`), and no two such tokens of a value stand side by side (`apart_tokens`). The machine goes over the
value; each of its lemmas is about the value with anything behind it, which is what carries the induction. Nesting
is counted on the tokens (`shallow_tokens`).
-/

set_option autoImplicit false

namespace CallCoupling.Json

/-! ## 1. The scanner -/

namespace Token

/-- Behind a token: nothing, or what can go on neither a number nor a word. -/
def Free : List Char → Prop
  | [] => True
  | c :: _ => inNumber c = false ∧ c.isAlpha = false

theorem scanFrom_cons {c : Char} {place place' : Place} {done done' : List Token}
    (h : step c place done = some (place', done')) (cs : List Char) :
    scanFrom (c :: cs) place done = scanFrom cs place' done' := by
  rw [scanFrom, h]

/-- A number or a word ends where something else begins. -/
theorem scanFrom_finish {place : Place} {done done' : List Token} (h : finish place done = some done')
    {rest : List Char}
    (hstep : ∀ c cs, rest = c :: cs → step c place done = (finish place done).bind (start c)) :
    scanFrom rest place done = scanFrom rest .between done' := by
  cases rest with
  | nil => exact h
  | cons c cs =>
    rw [scanFrom, scanFrom, hstep c cs rfl, h]
    rfl

theorem scanFrom_inWord {word : List Char} {t : Token} (ht : ofWord? word.reverse = some t) {rest : List Char}
    (hrest : Free rest) (done : List Token) :
    scanFrom rest (.inWord word) done = scanFrom rest .between (t :: done) := by
  apply scanFrom_finish (by simp [finish, ht])
  rintro c cs rfl
  simp [step, hrest.2]

theorem scanFrom_inNumber {digits : List Char} (hok : numberOk digits.reverse = true) {rest : List Char}
    (hrest : Free rest) (done : List Token) :
    scanFrom rest (.inNumber digits) done =
      scanFrom rest .between (.number (String.ofList digits.reverse) :: done) := by
  apply scanFrom_finish (by simp [finish, hok])
  rintro c cs rfl
  simp [step, hrest.1]

theorem free_of_isSpace {c : Char} (hc : isSpace c = true) (rest : List Char) : Free (c :: rest) := by
  simp only [isSpace, Bool.or_eq_true, decide_eq_true_eq] at hc
  rcases hc with ((rfl | rfl) | rfl) | rfl
  all_goals exact ⟨rfl, rfl⟩

theorem isMark_cases {c : Char} (hc : isMark c = true) : c ∈ ['[', ']', ':', ',', openBrace, closeBrace] := by
  simp only [isMark, Bool.or_eq_true, decide_eq_true_eq] at hc
  rcases hc with ((((rfl | rfl) | rfl) | rfl) | hc) | hc
  · simp
  · simp
  · simp
  · simp
  · simp [eq_ofNat hc, openBrace]
  · simp [eq_ofNat hc, closeBrace]

theorem free_of_isMark {c : Char} (hc : isMark c = true) (rest : List Char) : Free (c :: rest) := by
  have hmem := isMark_cases hc
  simp only [List.mem_cons, List.not_mem_nil, or_false] at hmem
  rcases hmem with rfl | rfl | rfl | rfl | rfl | rfl
  all_goals exact ⟨rfl, rfl⟩

theorem scanFrom_mark {c : Char} (hc : isMark c = true) (cs : List Char) (done : List Token) :
    scanFrom (c :: cs) .between done = scanFrom cs .between (.mark c :: done) := by
  have hmem := isMark_cases hc
  simp only [List.mem_cons, List.not_mem_nil, or_false] at hmem
  rcases hmem with rfl | rfl | rfl | rfl | rfl | rfl
  all_goals exact scanFrom_cons rfl cs

theorem scanFrom_blanks {blanks : List Char} (hblanks : ∀ c ∈ blanks, isSpace c = true) (rest : List Char)
    (done : List Token) : scanFrom (blanks ++ rest) .between done = scanFrom rest .between done := by
  induction blanks with
  | nil => rfl
  | cons c cs ih =>
    have hstep : step c .between done = some (.between, done) := by simp [step, start, hblanks c (by simp)]
    rw [List.cons_append, scanFrom_cons hstep, ih fun c hc => hblanks c (by simp [hc])]

/-! ### Numbers -/

theorem scanFrom_inNumber_append {digits : List Char} (hdigits : ∀ c ∈ digits, inNumber c = true)
    (seen rest : List Char) (done : List Token) :
    scanFrom (digits ++ rest) (.inNumber seen) done =
      scanFrom rest (.inNumber (digits.reverse ++ seen)) done := by
  induction digits generalizing seen with
  | nil => rfl
  | cons c cs ih =>
    have hstep : step c (.inNumber seen) done = some (.inNumber (c :: seen), done) := by
      simp [step, hdigits c (by simp)]
    rw [List.cons_append, scanFrom_cons hstep, ih fun c hc => hdigits c (by simp [hc])]
    simp

theorem step_between_digit {c : Char} (hc : c.isDigit = true) (done : List Token) :
    step c .between done = some (.inNumber [c], done) := by
  have hin : inNumber c = true := inNumber_of_isDigit hc
  have hspace : isSpace c = false := by
    refine Bool.eq_false_iff.2 fun hspace => ?_
    rw [(free_of_isSpace hspace []).1] at hin
    cases hin
  have hmark : isMark c = false := by
    refine Bool.eq_false_iff.2 fun hmark => ?_
    rw [(free_of_isMark hmark []).1] at hin
    cases hin
  have hquote : c ≠ '"' := by
    rintro rfl
    cases hin
  simp [step, start, hspace, hmark, hquote, hc]

/-- **A number is one token.** -/
theorem scanFrom_number {l : String} (hl : numberOk l.toList = true) {rest : List Char} (hrest : Free rest)
    (done : List Token) :
    scanFrom (l.toList ++ rest) .between done = scanFrom rest .between (.number l :: done) := by
  obtain ⟨c, cs, hcons, hc, hall⟩ := exists_of_numberOk hl
  have hbegin : step c .between done = some (.inNumber [c], done) := by
    rcases hc with hc | rfl
    · exact step_between_digit hc done
    · rfl
  have hread : (cs.reverse ++ [c]).reverse = l.toList := by simp [hcons]
  have hcs : ∀ c ∈ cs, inNumber c = true := fun c hc => hall c (by simp [hcons, hc])
  rw [hcons, List.cons_append, scanFrom_cons hbegin, scanFrom_inNumber_append hcs, scanFrom_inNumber _ hrest,
    hread, String.ofList_toList]
  rw [hread]
  exact hl

/-! ### Strings -/

theorem step_inHex {c : Char} (hc : isHex c = true) (seen : List Char) (done : List Token) :
    step c (.inHex 0 seen) done = some (.inString (c :: seen), done) ∧
      ∀ left, step c (.inHex (left + 1) seen) done = some (.inHex left (c :: seen), done) := by
  have hvalue : ((Integer.digitValue? c).filter (· < 16)).isSome = true := hc
  simp only [step, hvalue, if_true, implies_true, and_self]

/-- A spelling stays inside its string. -/
theorem scanFrom_inString {s : List Char} (hs : Spelled s) (seen rest : List Char) (done : List Token) :
    scanFrom (s ++ rest) (.inString seen) done = scanFrom rest (.inString (s.reverse ++ seen)) done := by
  induction hs generalizing seen with
  | nil => rfl
  | @itself c s hquote hbackslash hvisible _ ih =>
    have hstep : step c (.inString seen) done = some (.inString (c :: seen), done) := by
      simp [step, hquote, hbackslash, hvisible]
    rw [List.cons_append, scanFrom_cons hstep, ih]
    simp
  | @letter c s hletter _ ih =>
    have hu : c ≠ 'u' := by
      rintro rfl
      cases hletter
    have hstep : step c (.inEscape ('\\' :: seen)) done = some (.inString (c :: '\\' :: seen), done) := by
      simp [step, hu, hletter]
    rw [List.cons_append, List.cons_append, scanFrom_cons rfl, scanFrom_cons hstep, ih]
    simp
  | @number a b c d s hhex _ ih =>
    obtain ⟨ha, hb, hc, hd⟩ : isHex a = true ∧ isHex b = true ∧ isHex c = true ∧ isHex d = true := by
      simpa using hhex
    simp only [List.cons_append]
    rw [scanFrom_cons rfl, scanFrom_cons rfl, scanFrom_cons ((step_inHex ha _ _).2 _),
      scanFrom_cons ((step_inHex hb _ _).2 _), scanFrom_cons ((step_inHex hc _ _).2 _),
      scanFrom_cons (step_inHex hd _ _).1, ih]
    simp

/-- **A spelling between quotes is one token.** -/
theorem scanFrom_quoted {s : List Char} (hs : Spelled s) (rest : List Char) (done : List Token) :
    scanFrom (quotedSpelling s ++ rest) .between done = scanFrom rest .between (.string s :: done) := by
  have hopen : quotedSpelling s ++ rest = '"' :: (s ++ '"' :: rest) := by simp [quotedSpelling]
  rw [hopen, scanFrom_cons rfl, scanFrom_inString hs]
  exact (scanFrom_cons rfl rest).trans (by simp)

/-! ### Tokens side by side -/

/-- **A token is cut off**, if it is a mark or something else begins behind it. -/
theorem scanFrom_spelling {t : Token} (ht : t.Proper) {rest : List Char}
    (hrest : (∃ c, t = .mark c) ∨ Free rest) (done : List Token) :
    scanFrom (t.spelling ++ rest) .between done = scanFrom rest .between (t :: done) := by
  cases t with
  | mark c => exact scanFrom_mark ht rest done
  | null => exact scanFrom_inWord rfl (hrest.resolve_left (by simp)) done
  | bool b => cases b <;> exact scanFrom_inWord rfl (hrest.resolve_left (by simp)) done
  | number l => exact scanFrom_number ht (hrest.resolve_left (by simp)) done
  | string s => exact scanFrom_quoted ht rest done

/-- The tokens are none, or begin with a mark. -/
def Marked : List Token → Prop
  | [] => True
  | t :: _ => ∃ c, t = .mark c

/-- Of two tokens side by side one is a mark. -/
inductive Apart : List Token → Prop where
  | nil : Apart []
  | mark (c : Char) {ts : List Token} (h : Apart ts) : Apart (.mark c :: ts)
  | cons (t : Token) {ts : List Token} (hmarked : Marked ts) (h : Apart ts) : Apart (t :: ts)

end Token

open Token

theorem marked_itemTokens (vs : List Json) (rest : List Token) : Marked (itemTokens vs ++ rest) := by
  cases vs <;> exact ⟨_, rfl⟩

theorem marked_fieldTokens (fields : List (List Char × Json)) (rest : List Token) :
    Marked (fieldTokens fields ++ rest) := by
  cases fields <;> exact ⟨_, rfl⟩

theorem Spaced.free {ts : List Token} {text : List Char} (h : Spaced ts text) (hts : ∀ t ∈ ts, t.Proper)
    (hmarked : Marked ts) : Free text := by
  cases h with
  | nil hblanks =>
    cases text with
    | nil => trivial
    | cons c cs => exact free_of_isSpace (hblanks c (by simp)) cs
  | @cons blanks hblanks t ts rest h =>
    cases blanks with
    | nil =>
      obtain ⟨c, rfl⟩ := hmarked
      exact free_of_isMark (hts (.mark c) (by simp)) rest
    | cons c cs => exact free_of_isSpace (hblanks c (by simp)) _

/-- **The scanner cuts a text into the tokens it is made of.** -/
theorem Spaced.scanFrom_eq {ts : List Token} {text : List Char} (h : Spaced ts text) (hts : ∀ t ∈ ts, t.Proper)
    (hapart : Apart ts) (done : List Token) : scanFrom text .between done = some (ts.reverse ++ done) := by
  induction h generalizing done with
  | nil hblanks =>
    have := scanFrom_blanks hblanks [] done
    rw [List.append_nil] at this
    exact this
  | @cons blanks hblanks t ts rest h ih =>
    obtain ⟨ht, hts⟩ := List.forall_mem_cons.1 hts
    have hfree : ((∃ c, t = .mark c) ∨ Free rest) ∧ Apart ts := by
      cases hapart with
      | mark c hapart => exact ⟨Or.inl ⟨c, rfl⟩, hapart⟩
      | cons t hmarked hapart => exact ⟨Or.inr (h.free hts hmarked), hapart⟩
    rw [scanFrom_blanks hblanks, scanFrom_spelling ht hfree.1, ih hts hfree.2]
    simp

mutual

/-- **The tokens of a value stand apart**, with the end of what it stands in behind it. -/
theorem apart_tokens (v : Json) {rest : List Token} (hmarked : Marked rest) (hrest : Apart rest) :
    Apart (tokens v ++ rest) := by
  cases v with
  | null => exact .cons _ hmarked hrest
  | bool b => exact .cons _ hmarked hrest
  | number l => exact .cons _ hmarked hrest
  | string s => exact .cons _ hmarked hrest
  | array items =>
    cases items with
    | nil => exact .mark _ (.mark _ hrest)
    | cons v vs =>
      rw [tokens, List.cons_append, List.cons_append, List.append_assoc]
      exact .mark _ (apart_tokens v (marked_itemTokens vs rest) (apart_itemTokens vs hrest))
  | object fields =>
    cases fields with
    | nil => exact .mark _ (.mark _ hrest)
    | cons field fields =>
      obtain ⟨k, v⟩ := field
      simp only [tokens, List.cons_append, List.append_assoc]
      exact .mark _ (.cons _ ⟨_, rfl⟩ (.mark _
        (apart_tokens v (marked_fieldTokens fields rest) (apart_fieldTokens fields hrest))))

theorem apart_itemTokens (vs : List Json) {rest : List Token} (hrest : Apart rest) :
    Apart (itemTokens vs ++ rest) := by
  cases vs with
  | nil => exact .mark _ hrest
  | cons v vs =>
    rw [itemTokens, List.cons_append, List.cons_append, List.append_assoc]
    exact .mark _ (apart_tokens v (marked_itemTokens vs rest) (apart_itemTokens vs hrest))

theorem apart_fieldTokens (fields : List (List Char × Json)) {rest : List Token} (hrest : Apart rest) :
    Apart (fieldTokens fields ++ rest) := by
  cases fields with
  | nil => exact .mark _ hrest
  | cons field fields =>
    obtain ⟨k, v⟩ := field
    simp only [fieldTokens, List.cons_append, List.append_assoc]
    exact .mark _ (.cons _ ⟨_, rfl⟩ (.mark _
      (apart_tokens v (marked_fieldTokens fields rest) (apart_fieldTokens fields hrest))))

end

/-- **The scanner cuts a text into the tokens of the value it spells.** -/
theorem Spells.scan_eq {v : Json} {text : List Char} (h : v.Spells text) : Token.scan text = some (tokens v) := by
  have hapart : Apart (tokens v) := by
    have : Apart (tokens v ++ []) := apart_tokens v trivial .nil
    rwa [List.append_nil] at this
  rw [Token.scan, h.spaced.scanFrom_eq ((proper_iff v).1 h.proper) hapart]
  simp

/-! ## 2. The machine -/

/-- The machine waits for a value inside the containers `outer`. The closing bracket is left out, since right after
    an opening one it ends the list instead; no value begins with it. -/
def State.Awaits (s : State) (outer : List Frame) : Prop := ∀ t, t ≠ .mark ']' → s.step t = begin t outer

theorem State.awaits_top : State.top.Awaits [] := fun _ _ => rfl

theorem State.awaits_item (first : Bool) (done : List Json) (outer : List Frame) :
    (State.item first done outer).Awaits (.list done :: outer) := by
  intro t ht
  simp [State.step, ht]

theorem State.awaits_value (done : List (List Char × Json)) (key : List Char) (outer : List Frame) :
    (State.value done key outer).Awaits (.object done key :: outer) := fun _ _ => rfl

theorem State.run_cons {s s' : State} {t : Token} (h : s.step t = some s') (ts : List Token) :
    State.run (t :: ts) s = State.run ts s' := by
  rw [State.run.eq_def]
  simp [h]

theorem State.Awaits.run_cons {s s' : State} {outer : List Frame} (hs : s.Awaits outer) {t : Token}
    (ht : t ≠ .mark ']') (h : begin t outer = some s') (ts : List Token) :
    State.run (t :: ts) s = State.run ts s' :=
  State.run_cons ((hs t ht).trans h) ts

mutual

/-- **The machine makes the value from its tokens.** -/
theorem run_tokens (v : Json) {s : State} {outer : List Frame} (hs : s.Awaits outer) (rest : List Token) :
    State.run (tokens v ++ rest) s = State.run rest (deliver v outer) := by
  cases v with
  | null => exact hs.run_cons (by simp) rfl rest
  | bool b => exact hs.run_cons (by simp) rfl rest
  | number l => exact hs.run_cons (by simp) rfl rest
  | string s => exact hs.run_cons (by simp) rfl rest
  | array items =>
    cases items with
    | nil => exact (hs.run_cons (by simp) rfl _).trans (State.run_cons rfl rest)
    | cons v vs =>
      rw [tokens, List.cons_append, List.cons_append, List.append_assoc, hs.run_cons (by simp) rfl,
        run_tokens v (State.awaits_item true [] outer)]
      exact run_itemTokens vs [v] outer rest
  | object fields =>
    cases fields with
    | nil => exact (hs.run_cons (by simp [openBrace]) rfl _).trans (State.run_cons rfl rest)
    | cons field fields =>
      obtain ⟨k, v⟩ := field
      simp only [tokens, List.cons_append, List.append_assoc]
      rw [hs.run_cons (by simp [openBrace]) rfl, State.run_cons rfl, State.run_cons rfl,
        run_tokens v (State.awaits_value [] k outer)]
      exact run_fieldTokens fields [(k, v)] outer rest

theorem run_itemTokens (vs done : List Json) (outer : List Frame) (rest : List Token) :
    State.run (itemTokens vs ++ rest) (.afterItem done outer) =
      State.run rest (deliver (.array (done.reverse ++ vs)) outer) := by
  cases vs with
  | nil =>
    rw [List.append_nil]
    exact State.run_cons rfl rest
  | cons v vs =>
    rw [itemTokens, List.cons_append, List.cons_append, List.append_assoc, State.run_cons rfl,
      run_tokens v (State.awaits_item false done outer)]
    have := run_itemTokens vs (v :: done) outer rest
    simpa [deliver] using this

theorem run_fieldTokens (fields done : List (List Char × Json)) (outer : List Frame) (rest : List Token) :
    State.run (fieldTokens fields ++ rest) (.afterValue done outer) =
      State.run rest (deliver (.object (done.reverse ++ fields)) outer) := by
  cases fields with
  | nil =>
    rw [List.append_nil]
    exact State.run_cons rfl rest
  | cons field fields =>
    obtain ⟨k, v⟩ := field
    simp only [fieldTokens, List.cons_append, List.append_assoc]
    rw [State.run_cons rfl, State.run_cons rfl, State.run_cons rfl,
      run_tokens v (State.awaits_value done k outer)]
    have := run_fieldTokens fields ((k, v) :: done) outer rest
    simpa [deliver] using this

end

/-! ## 3. Nesting -/

/-- A container takes one of the levels that are left. -/
theorem shallow_open {c : Char} (hc : c = '[' ∨ c = openBrace) {outside deep : Nat} {ts rest : List Token}
    (h : outside + 1 ≤ depthLimit →
      shallow (outside + 1) ts = (decide (outside + 1 + deep ≤ depthLimit) && shallow outside rest)) :
    shallow outside (.mark c :: ts) = (decide (outside + (deep + 1) ≤ depthLimit) && shallow outside rest) := by
  have hopen : shallow outside (.mark c :: ts) = (decide (outside < depthLimit) && shallow (outside + 1) ts) := by
    rcases hc with rfl | rfl <;> rfl
  rw [hopen]
  by_cases hlt : outside < depthLimit
  · rw [h hlt, decide_eq_true hlt, Bool.true_and, Nat.add_assoc, Nat.add_comm 1 deep]
  · rw [decide_eq_false hlt, decide_eq_false (by omega)]
    rfl

/-- Two parts stay within the limit if each does. -/
theorem within_max (outside m n : Nat) :
    decide (outside + max m n ≤ depthLimit) =
      (decide (outside + m ≤ depthLimit) && decide (outside + n ≤ depthLimit)) := by
  rw [← Bool.decide_and, decide_eq_decide]
  omega

mutual

/-- **The tokens of a value stay within the limit as deep as it nests**, and leave no container open. -/
theorem shallow_tokens (v : Json) {outside : Nat} (hlimit : outside ≤ depthLimit) (rest : List Token) :
    shallow outside (tokens v ++ rest) = (decide (outside + v.depth ≤ depthLimit) && shallow outside rest) := by
  cases v with
  | null => rw [depth, Nat.add_zero, decide_eq_true hlimit]; rfl
  | bool b => rw [depth, Nat.add_zero, decide_eq_true hlimit]; rfl
  | number l => rw [depth, Nat.add_zero, decide_eq_true hlimit]; rfl
  | string s => rw [depth, Nat.add_zero, decide_eq_true hlimit]; rfl
  | array items =>
    rw [depth]
    cases items with
    | nil => exact shallow_open (Or.inl rfl) fun hlimit => shallow_itemTokens [] hlimit rest
    | cons v vs =>
      rw [tokens, List.cons_append, List.cons_append, List.append_assoc]
      refine shallow_open (Or.inl rfl) fun hlimit => ?_
      rw [shallow_tokens v hlimit, shallow_itemTokens vs hlimit, depthOfItems, within_max, Bool.and_assoc]
  | object fields =>
    rw [depth]
    cases fields with
    | nil => exact shallow_open (Or.inr rfl) fun hlimit => shallow_fieldTokens [] hlimit rest
    | cons field fields =>
      obtain ⟨k, v⟩ := field
      simp only [tokens, List.cons_append, List.append_assoc]
      refine shallow_open (Or.inr rfl) fun hlimit => ?_
      show shallow (_ + 1) (tokens v ++ _) = _
      rw [shallow_tokens v hlimit, shallow_fieldTokens fields hlimit, depthOfFields, within_max, Bool.and_assoc]

theorem shallow_itemTokens (vs : List Json) {outside : Nat} (hlimit : outside + 1 ≤ depthLimit)
    (rest : List Token) :
    shallow (outside + 1) (itemTokens vs ++ rest) =
      (decide (outside + 1 + depthOfItems vs ≤ depthLimit) && shallow outside rest) := by
  cases vs with
  | nil => rw [depthOfItems, Nat.add_zero, decide_eq_true hlimit]; rfl
  | cons v vs =>
    rw [itemTokens, List.cons_append, List.cons_append, List.append_assoc]
    show shallow (outside + 1) (tokens v ++ _) = _
    rw [shallow_tokens v hlimit, shallow_itemTokens vs hlimit, depthOfItems, within_max, Bool.and_assoc]

theorem shallow_fieldTokens (fields : List (List Char × Json)) {outside : Nat} (hlimit : outside + 1 ≤ depthLimit)
    (rest : List Token) :
    shallow (outside + 1) (fieldTokens fields ++ rest) =
      (decide (outside + 1 + depthOfFields fields ≤ depthLimit) && shallow outside rest) := by
  cases fields with
  | nil => rw [depthOfFields, Nat.add_zero, decide_eq_true hlimit]; rfl
  | cons field fields =>
    obtain ⟨k, v⟩ := field
    simp only [fieldTokens, List.cons_append, List.append_assoc]
    show shallow (outside + 1) (tokens v ++ _) = _
    rw [shallow_tokens v hlimit, shallow_fieldTokens fields hlimit, depthOfFields, within_max, Bool.and_assoc]

end

theorem shallow_zero_tokens (v : Json) : shallow 0 (tokens v) = decide (v.depth ≤ depthLimit) := by
  have := shallow_tokens v (Nat.zero_le depthLimit) []
  simpa [shallow] using this

/-! ## 4. Documents -/

/-- The value of a text, however deep it nests. -/
def read? (text : List Char) : Option Json := (Token.scan text).bind fun ts => State.run ts .top

theorem run_top_tokens (v : Json) : State.run (tokens v) .top = some v := by
  have := run_tokens v State.awaits_top []
  rw [List.append_nil] at this
  exact this

/-- **A value is read from any text that spells it.** -/
theorem Spells.read?_eq {v : Json} {text : List Char} (h : v.Spells text) : read? text = some v := by
  rw [read?, h.scan_eq]
  exact run_top_tokens v

/-- **A text that spells a value is taken if it does not nest too deep.** -/
theorem Spells.parse?_eq {v : Json} {text : List Char} (h : v.Spells text) :
    parse? text = if v.depth ≤ depthLimit then some v else none := by
  rw [parse?, h.scan_eq, Option.bind_some, ofTokens?, shallow_zero_tokens, run_top_tokens]
  simp only [decide_eq_true_eq]

/-! ## 5. Values of texts and whole numbers -/

/-- A value of texts and whole numbers that nests at most `depth` deep. -/
inductive Plain : Nat → Json → Prop where
  | null (depth : Nat) : Plain depth .null
  | bool (depth : Nat) (b : Bool) : Plain depth (.bool b)
  | int (depth : Nat) (n : Int) : Plain depth (.int n)
  | text (depth : Nat) (s : String) : Plain depth (.text s)
  | array {depth : Nat} {items : List Json} (h : ∀ v ∈ items, Plain depth v) : Plain (depth + 1) (.array items)
  | ofFields {depth : Nat} {fields : List (String × Json)} (h : ∀ field ∈ fields, Plain depth field.2) :
    Plain (depth + 1) (.ofFields fields)

namespace Token

theorem magnitudeOk_toDigits (n : Nat) : magnitudeOk (Nat.toDigits 10 n) = true := by
  rcases Integer.toDigits_head n with hzero | ⟨c, cs, hcons, hc⟩
  · rw [hzero]; rfl
  · have hall := Integer.isDigit_of_mem_toDigits (n := n)
    rw [hcons] at hall ⊢
    rw [magnitudeOk]
    · rw [List.takeWhile_eq_self_iff.mpr hall, List.dropWhile_eq_nil_iff.mpr hall]
      rfl
    · rintro _ ⟨⟩
      exact hc rfl

theorem numberOk_text (n : Int) : numberOk (Integer.text n).toList = true := by
  rw [Integer.text_toList]
  split
  · exact magnitudeOk_toDigits n.natAbs
  · obtain ⟨c, cs, hcons, hc, -⟩ := Integer.toDigits_eq_cons n.natAbs
    have hok := magnitudeOk_toDigits n.natAbs
    rw [hcons] at hok ⊢
    rw [numberOk]
    · exact hok
    · rintro _ ⟨⟩
      simp at hc

end Token

theorem proper_text (s : String) : (text s).Proper := .string (spelled_escape s)

theorem proper_int (n : Int) : (int n).Proper := .number (Token.numberOk_text n)

theorem proper_ofFields {fields : List (String × Json)} (h : ∀ field ∈ fields, field.2.Proper) :
    (Json.ofFields fields).Proper := by
  refine .object ?_ ?_
  · exact List.forall_mem_map.2 fun field _ => spelled_escape field.1
  · exact List.forall_mem_map.2 h

theorem Plain.proper {depth : Nat} {v : Json} (h : Plain depth v) : v.Proper := by
  induction h with
  | null => exact .null
  | bool depth b => exact .bool b
  | int depth n => exact proper_int n
  | text depth s => exact proper_text s
  | array _ ih => exact .array ih
  | ofFields _ ih => exact proper_ofFields ih

theorem depthOfItems_le {items : List Json} {deep : Nat} (h : ∀ v ∈ items, v.depth ≤ deep) :
    depthOfItems items ≤ deep := by
  induction items with
  | nil => exact Nat.zero_le _
  | cons v vs ih => exact max_le (h v (by simp)) (ih fun v hv => h v (by simp [hv]))

theorem depthOfFields_le {fields : List (List Char × Json)} {deep : Nat} (h : ∀ field ∈ fields, field.2.depth ≤ deep) :
    depthOfFields fields ≤ deep := by
  induction fields with
  | nil => exact Nat.zero_le _
  | cons field fields ih => exact max_le (h field (by simp)) (ih fun field hfield => h field (by simp [hfield]))

theorem Plain.depth_le {deep : Nat} {v : Json} (h : Plain deep v) : v.depth ≤ deep := by
  induction h with
  | null => exact Nat.zero_le _
  | bool => exact Nat.zero_le _
  | int => exact Nat.zero_le _
  | text => exact Nat.zero_le _
  | array _ ih => exact Nat.succ_le_succ (depthOfItems_le ih)
  | ofFields _ ih => exact Nat.succ_le_succ (depthOfFields_le (List.forall_mem_map.2 ih))

/-- **A value is read back from its text.** -/
theorem Plain.parse?_compactChars {depth : Nat} {v : Json} (h : Plain depth v) (hdepth : depth ≤ depthLimit) :
    parse? v.compactChars = some v := by
  rw [h.proper.spells_compactChars.parse?_eq, if_pos (h.depth_le.trans hdepth)]

end CallCoupling.Json
