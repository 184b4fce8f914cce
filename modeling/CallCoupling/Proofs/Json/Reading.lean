import CallCoupling.Proofs.Json.RoundTrip
import Mathlib

/-!
# What is read is a document

The reader takes the texts that spell a value, and no others: `Json.read?` gives the value that the text spells
(`read?_eq_some_iff`), and `Json.parse?` gives it if it nests within the limit (`parse?_eq_some_iff`).

One half of this is that a text which spells a value is read to it. For the other half, both stages of the reader
are asked what they have read when they stand where they stand. The scanner has read the tokens it has cut off, and
of the next one the characters it keeps (`Scanned`). The machine has taken the tokens of the items and fields that
its state holds, so what it has taken can be told from the state alone (`State.taken`). A step adds to this what it
reads, and a run that ends in a value has read that value.
-/

set_option autoImplicit false

namespace CallCoupling.Json

/-! ## 1. The scanner -/

theorem Spaced.blank {ts : List Token} {text : List Char} (h : Spaced ts text) {c : Char}
    (hc : Token.isSpace c = true) : Spaced ts (text ++ [c]) := by
  induction h with
  | nil hblanks => exact .nil (List.forall_mem_append.2 ⟨hblanks, List.forall_mem_singleton.2 hc⟩)
  | cons hblanks t h ih =>
    rw [List.append_assoc, List.append_assoc]
    exact .cons hblanks t ih

theorem Spaced.concat {ts : List Token} {text : List Char} (h : Spaced ts text) (t : Token) :
    Spaced (ts ++ [t]) (text ++ t.spelling) := by
  induction h with
  | @nil blanks hblanks =>
    have := Spaced.cons hblanks t (.nil (List.forall_mem_nil _))
    rwa [List.append_nil] at this
  | cons hblanks u h ih =>
    rw [List.append_assoc, List.append_assoc]
    exact .cons hblanks u ih

namespace Token

/-- What the scanner keeps of the token it is in. -/
def Place.kept : Place → List Char
  | .between => []
  | .inString s => '"' :: s.reverse
  | .inEscape s => '"' :: s.reverse
  | .inHex _ s => '"' :: s.reverse
  | .inNumber s => s.reverse
  | .inWord s => s.reverse

/-- A string can still be made of what is kept. -/
def Place.Sound : Place → Prop
  | .inString s => Spelled s.reverse
  | .inEscape s => ∃ front, Spelled front ∧ s.reverse = front ++ ['\\']
  | .inHex left s => ∃ front digits, Spelled front ∧ s.reverse = front ++ '\\' :: 'u' :: digits ∧
      (∀ c ∈ digits, isHex c = true) ∧ digits.length + left = 3
  | _ => True

/-- The scanner has read the text when it is at a place, with some tokens done. -/
structure Scanned (text : List Char) (place : Place) (done : List Token) : Prop where
  spaced : ∃ front, text = front ++ place.kept ∧ Spaced done.reverse front
  sound : place.Sound
  proper : ∀ t ∈ done, t.Proper

variable {text : List Char} {place place' : Place} {done done' : List Token}

theorem Scanned.token {t : Token} {front : List Char} (hfront : Spaced done.reverse front) (ht : t.Proper)
    (hproper : ∀ t ∈ done, t.Proper) : Scanned (front ++ t.spelling) .between (t :: done) where
  spaced := ⟨_, (List.append_nil _).symm, by rw [List.reverse_cons]; exact hfront.concat t⟩
  sound := trivial
  proper := List.forall_mem_cons.2 ⟨ht, hproper⟩

theorem spelling_of_ofWord? {word : List Char} {t : Token} (h : ofWord? word = some t) :
    t.spelling = word ∧ t.Proper := by
  have hchars : ∀ {s : String}, String.ofList word = s → s.toList = word := by
    rintro s rfl
    exact String.toList_ofList
  unfold ofWord? at h
  split at h <;> rename_i hword <;> cases h
  · exact ⟨hchars hword, trivial⟩
  · exact ⟨hchars hword, trivial⟩
  · exact ⟨hchars hword, trivial⟩

/-- A number or a word that is finished is one more token. -/
theorem Scanned.finish (h : Scanned text place done) (hfinish : Token.finish place done = some done') :
    Scanned text .between done' := by
  obtain ⟨⟨front, rfl, hfront⟩, -, hproper⟩ := h
  unfold Token.finish at hfinish
  split at hfinish
  · cases hfinish
    exact ⟨⟨front, rfl, hfront⟩, trivial, hproper⟩
  · rename_i digits
    split_ifs at hfinish with hok
    cases hfinish
    have := Scanned.token (t := .number (String.ofList digits.reverse)) hfront
      (by simpa [Token.Proper] using hok) hproper
    simpa [spelling, Place.kept] using this
  · rename_i word
    obtain ⟨t, ht, rfl⟩ := Option.map_eq_some_iff.1 hfinish
    obtain ⟨hspelling, ht⟩ := spelling_of_ofWord? ht
    have := Scanned.token hfront ht hproper
    rwa [hspelling] at this
  · cases hfinish

theorem Scanned.start {c : Char} (h : Scanned text .between done)
    (hstart : Token.start c done = some (place', done')) : Scanned (text ++ [c]) place' done' := by
  obtain ⟨⟨front, rfl, hfront⟩, -, hproper⟩ := h
  have hnothing : front ++ Place.between.kept = front := List.append_nil front
  rw [hnothing]
  unfold Token.start at hstart
  split_ifs at hstart with hspace hmark hquote hdigit halpha <;> cases hstart
  · exact ⟨⟨_, (List.append_nil _).symm, hfront.blank hspace⟩, trivial, hproper⟩
  · exact Scanned.token (t := .mark c) hfront hmark hproper
  · rw [hquote]
    exact ⟨⟨front, rfl, hfront⟩, .nil, hproper⟩
  · exact ⟨⟨front, rfl, hfront⟩, trivial, hproper⟩
  · exact ⟨⟨front, rfl, hfront⟩, trivial, hproper⟩

/-- **A step of the scanner reads one character.** -/
theorem Scanned.step {c : Char} (h : Scanned text place done)
    (hstep : Token.step c place done = some (place', done')) : Scanned (text ++ [c]) place' done' := by
  have hall := h
  obtain ⟨⟨front, rfl, hfront⟩, hsound, hproper⟩ := h
  -- Most steps keep the character and finish no token.
  have hkeep : ∀ {p : Place}, p.kept = place.kept ++ [c] → p.Sound →
      Scanned (front ++ place.kept ++ [c]) p done := fun hkept hp =>
    ⟨⟨front, by rw [hkept, List.append_assoc], hfront⟩, hp, hproper⟩
  cases place with
  | between => exact hall.start hstep
  | inString s =>
    have hs : Spelled s.reverse := hsound
    simp only [Token.step] at hstep
    split_ifs at hstep with hquote hbackslash hcontrol <;> cases hstep
    · have := Scanned.token (t := .string s.reverse) hfront hs hproper
      simpa [spelling, quotedSpelling, Place.kept, hquote] using this
    · refine hkeep (by simp [Place.kept]) ⟨s.reverse, hs, ?_⟩
      simp [hbackslash]
    · refine hkeep (by simp [Place.kept]) ?_
      have : Spelled (c :: s).reverse := by
        rw [List.reverse_cons]
        exact hs.append (.itself hquote hbackslash (by omega) .nil)
      exact this
  | inEscape s =>
    obtain ⟨before, hbefore, hs⟩ := hsound
    simp only [Token.step] at hstep
    split_ifs at hstep with hu hletter <;> cases hstep
    · refine hkeep (by simp [Place.kept]) ⟨before, [], hbefore, ?_, by simp, rfl⟩
      simp [hs, hu]
    · refine hkeep (by simp [Place.kept]) ?_
      have : Spelled (c :: s).reverse := by
        rw [List.reverse_cons, hs, List.append_assoc]
        exact hbefore.append (.letter hletter .nil)
      exact this
  | inHex left s =>
    obtain ⟨before, digits, hbefore, hs, hdigits, hlength⟩ := hsound
    simp only [Token.step] at hstep
    split_ifs at hstep with hhex
    have hdigits : ∀ x ∈ digits ++ [c], isHex x = true :=
      List.forall_mem_append.2 ⟨hdigits, List.forall_mem_singleton.2 hhex⟩
    have hread : (c :: s).reverse = before ++ '\\' :: 'u' :: (digits ++ [c]) := by simp [hs]
    cases left with
    | zero =>
      cases hstep
      refine hkeep (by simp [Place.kept]) ?_
      have hfour : (digits ++ [c]).length = 4 := by rw [List.length_append, List.length_singleton]; omega
      obtain ⟨x, y, z, w, hdigits'⟩ := List.length_eq_four.1 hfour
      rw [hdigits'] at hdigits hread
      have : Spelled (c :: s).reverse := hread ▸ hbefore.append (.number hdigits .nil)
      exact this
    | succ left =>
      cases hstep
      refine hkeep (by simp [Place.kept]) ⟨before, digits ++ [c], hbefore, hread, hdigits, ?_⟩
      simp
      omega
  | inNumber s =>
    simp only [Token.step] at hstep
    split_ifs at hstep
    · cases hstep
      exact hkeep (by simp [Place.kept]) trivial
    · obtain ⟨done'', hfinish, hstart⟩ := Option.bind_eq_some_iff.1 hstep
      exact (hall.finish hfinish).start hstart
  | inWord s =>
    simp only [Token.step] at hstep
    split_ifs at hstep
    · cases hstep
      exact hkeep (by simp [Place.kept]) trivial
    · obtain ⟨done'', hfinish, hstart⟩ := Option.bind_eq_some_iff.1 hstep
      exact (hall.finish hfinish).start hstart

/-- **A run of the scanner reads its text.** -/
theorem Scanned.run {cs : List Char} {ts : List Token} (h : Scanned text place done)
    (hrun : scanFrom cs place done = some ts) : Scanned (text ++ cs) .between ts := by
  induction cs generalizing text place done with
  | nil =>
    rw [List.append_nil]
    exact h.finish hrun
  | cons c cs ih =>
    rw [scanFrom] at hrun
    split at hrun
    · rename_i place' done' hstep
      have := ih (h.step hstep) hrun
      rwa [List.append_assoc] at this
    · cases hrun

/-- **A text is made of the tokens it is cut into.** -/
theorem spaced_of_scan {ts : List Token} (h : Token.scan text = some ts) :
    Spaced ts text ∧ ∀ t ∈ ts, t.Proper := by
  obtain ⟨done, hdone, rfl⟩ := Option.map_eq_some_iff.1 h
  have hbegin : Scanned [] .between [] :=
    ⟨⟨[], rfl, .nil (List.forall_mem_nil _)⟩, trivial, List.forall_mem_nil _⟩
  obtain ⟨⟨front, hfront, hspaced⟩, -, hproper⟩ := hbegin.run hdone
  rw [List.nil_append] at hfront
  have hnothing : front ++ Place.between.kept = front := List.append_nil front
  rw [hfront, hnothing]
  exact ⟨hspaced, fun t ht => hproper t (List.mem_reverse.1 ht)⟩

end Token

/-! ## 2. The machine -/

/-- What stands between the parts so far and the next. -/
def separator {α : Type} : List α → List Token
  | [] => []
  | _ :: _ => [.mark ',']

/-- The tokens of an array up to an item; the items so far are kept in reverse. -/
def listed : List Json → List Token
  | [] => [.mark '[']
  | v :: done => listed done ++ separator done ++ tokens v

/-- The tokens of an object up to a field; the fields so far are kept in reverse. -/
def fielded : List (List Char × Json) → List Token
  | [] => [.mark openBrace]
  | (k, v) :: done => fielded done ++ separator done ++ .string k :: .mark ':' :: tokens v

/-- The tokens of containers that are open, up to the value being read. -/
def opened : List Frame → List Token
  | [] => []
  | .list done :: outer => opened outer ++ listed done ++ separator done
  | .object done name :: outer =>
    opened outer ++ fielded done ++ separator done ++ [.string name, .mark ':']

namespace State

/-- The tokens that lead to a state. -/
def taken : State → List Token
  | .top => []
  | .item _ done outer => opened (.list done :: outer)
  | .afterItem done outer => opened outer ++ listed done
  | .key _ done outer => opened outer ++ fielded done ++ separator done
  | .colon done name outer => opened outer ++ fielded done ++ separator done ++ [.string name]
  | .value done name outer => opened (.object done name :: outer)
  | .afterValue done outer => opened outer ++ fielded done
  | .finished v => tokens v

/-- An opening bracket has just been read only if nothing is done, and behind a part something is. -/
def Sound : State → Prop
  | .item first done _ => first = true → done = []
  | .key first done _ => first = true → done = []
  | .afterItem done _ => done ≠ []
  | .afterValue done _ => done ≠ []
  | _ => True

end State

theorem tokens_array {done : List Json} (hdone : done ≠ []) (vs : List Json) :
    tokens (.array (done.reverse ++ vs)) = listed done ++ itemTokens vs := by
  induction done generalizing vs with
  | nil => exact absurd rfl hdone
  | cons v done ih =>
    cases done with
    | nil => simp [tokens, listed, separator]
    | cons w done =>
      rw [List.reverse_cons, List.append_assoc, ih (by simp)]
      simp [itemTokens, listed, separator]

theorem tokens_object {done : List (List Char × Json)} (hdone : done ≠ []) (fields : List (List Char × Json)) :
    tokens (.object (done.reverse ++ fields)) = fielded done ++ fieldTokens fields := by
  induction done generalizing fields with
  | nil => exact absurd rfl hdone
  | cons field done ih =>
    obtain ⟨k, v⟩ := field
    cases done with
    | nil => simp [tokens, fielded, separator]
    | cons w done =>
      rw [List.reverse_cons, List.append_assoc, ih (by simp)]
      simp [fieldTokens, fielded, separator]

theorem taken_deliver (v : Json) (outer : List Frame) :
    (deliver v outer).taken = opened outer ++ tokens v ∧ (deliver v outer).Sound := by
  cases outer with
  | nil => exact ⟨rfl, trivial⟩
  | cons frame outer =>
    cases frame with
    | list done => exact ⟨by simp [deliver, State.taken, opened, listed], by simp [deliver, State.Sound]⟩
    | object done key => exact ⟨by simp [deliver, State.taken, opened, fielded], by simp [deliver, State.Sound]⟩

theorem taken_begin {t : Token} {outer : List Frame} {s : State} (h : begin t outer = some s) :
    s.taken = opened outer ++ [t] ∧ s.Sound := by
  cases t with
  | null => cases h; exact taken_deliver .null outer
  | bool b => cases h; exact taken_deliver (.bool b) outer
  | number l => cases h; exact taken_deliver (.number l) outer
  | string l => cases h; exact taken_deliver (.string l) outer
  | mark c =>
    simp only [begin] at h
    split_ifs at h with hlist hobject <;> cases h
    · subst hlist
      exact ⟨by simp [State.taken, opened, listed, separator], fun _ => rfl⟩
    · refine ⟨?_, fun _ => rfl⟩
      simp [State.taken, fielded, separator, eq_ofNat hobject, openBrace]

theorem taken_array (done : List Json) (outer : List Frame) :
    (deliver (.array done.reverse) outer).taken = opened outer ++ listed done ++ [.mark ']'] ∧
      (deliver (.array done.reverse) outer).Sound := by
  have htaken := taken_deliver (.array done.reverse) outer
  have htokens : tokens (.array done.reverse) = listed done ++ [.mark ']'] := by
    cases done with
    | nil => rfl
    | cons v done =>
      have := tokens_array (List.cons_ne_nil v done) []
      rwa [List.append_nil] at this
  rwa [htokens, ← List.append_assoc] at htaken

theorem taken_object (done : List (List Char × Json)) (outer : List Frame) :
    (deliver (.object done.reverse) outer).taken = opened outer ++ fielded done ++ [.mark closeBrace] ∧
      (deliver (.object done.reverse) outer).Sound := by
  have htaken := taken_deliver (.object done.reverse) outer
  have htokens : tokens (.object done.reverse) = fielded done ++ [.mark closeBrace] := by
    cases done with
    | nil => rfl
    | cons field done =>
      have := tokens_object (List.cons_ne_nil field done) []
      rwa [List.append_nil] at this
  rwa [htokens, ← List.append_assoc] at htaken

/-- **A step of the machine takes one token.** -/
theorem State.taken_step {s s' : State} {t : Token} (hs : s.Sound) (h : s.step t = some s') :
    s'.taken = s.taken ++ [t] ∧ s'.Sound := by
  cases s with
  | top => exact taken_begin h
  | item first done outer =>
    simp only [State.step, Bool.and_eq_true, decide_eq_true_eq] at h
    split_ifs at h with hclose
    · obtain ⟨hfirst, rfl⟩ := hclose
      cases h
      obtain rfl : done = [] := hs hfirst
      have := taken_array [] outer
      simpa [State.taken, opened, separator] using this
    · exact taken_begin h
  | afterItem done outer =>
    simp only [State.step] at h
    split_ifs at h with hcomma hclose <;> cases h
    · subst hcomma
      obtain ⟨v, done, rfl⟩ := List.exists_cons_of_ne_nil hs
      exact ⟨by simp [State.taken, opened, separator], by simp [State.Sound]⟩
    · subst hclose
      exact taken_array done outer
  | key first done outer =>
    cases t with
    | string k => cases h; exact ⟨rfl, trivial⟩
    | mark c =>
      simp only [State.step, Bool.and_eq_true, decide_eq_true_eq] at h
      split_ifs at h with hclose
      cases h
      obtain ⟨hfirst, hc⟩ := hclose
      obtain rfl : done = [] := hs hfirst
      have := taken_object [] outer
      simpa [State.taken, separator, eq_ofNat hc, closeBrace] using this
    | null => cases h
    | bool b => cases h
    | number l => cases h
  | colon done name outer =>
    simp only [State.step] at h
    split_ifs at h with hcolon
    cases h
    subst hcolon
    exact ⟨by simp [State.taken, opened], trivial⟩
  | value done name outer => exact taken_begin h
  | afterValue done outer =>
    cases t with
    | mark c =>
      simp only [State.step] at h
      split_ifs at h with hcomma hclose <;> cases h
      · subst hcomma
        obtain ⟨v, done, rfl⟩ := List.exists_cons_of_ne_nil hs
        exact ⟨by simp [State.taken, separator], by simp [State.Sound]⟩
      · rw [eq_ofNat hclose]
        exact taken_object done outer
    | string k => cases h
    | null => cases h
    | bool b => cases h
    | number l => cases h
  | finished v => cases h

/-- **A run of the machine takes its tokens**, and they are those of the value it ends with. -/
theorem State.tokens_of_run {ts : List Token} {s : State} {v : Json} (hs : s.Sound)
    (h : State.run ts s = some v) : tokens v = s.taken ++ ts := by
  induction ts generalizing s with
  | nil =>
    cases s <;> simp [State.run] at h
    rw [h, List.append_nil]
    rfl
  | cons t ts ih =>
    rw [State.run.eq_def] at h
    dsimp only at h
    split at h
    · rename_i s' hstep
      obtain ⟨htaken, hs'⟩ := State.taken_step hs hstep
      rw [ih hs' h, htaken, List.append_assoc]
      rfl
    · cases h

/-! ## 3. Documents -/

/-- **The reader takes the texts that spell a value**, and gives the value. -/
theorem read?_eq_some_iff {text : List Char} {v : Json} : read? text = some v ↔ v.Spells text := by
  constructor
  · intro h
    obtain ⟨ts, hscan, hrun⟩ := Option.bind_eq_some_iff.1 h
    obtain ⟨hspaced, hproper⟩ := Token.spaced_of_scan hscan
    have htokens : tokens v = ts := State.tokens_of_run (s := .top) trivial hrun
    exact ⟨(proper_iff v).2 (htokens ▸ hproper), htokens ▸ hspaced⟩
  · exact Spells.read?_eq

/-- **The reader with the limit takes those that nest within it.** -/
theorem parse?_eq_some_iff {text : List Char} {v : Json} :
    parse? text = some v ↔ v.Spells text ∧ v.depth ≤ depthLimit := by
  constructor
  · intro h
    obtain ⟨ts, hscan, hrun⟩ := Option.bind_eq_some_iff.1 h
    have hspells : v.Spells text := by
      rw [ofTokens?] at hrun
      split_ifs at hrun
      refine read?_eq_some_iff.1 ?_
      rw [read?, hscan]
      exact hrun
    refine ⟨hspells, ?_⟩
    rw [hspells.parse?_eq] at h
    by_contra hdeep
    rw [if_neg hdeep] at h
    cases h
  · rintro ⟨hspells, hdepth⟩
    rw [hspells.parse?_eq, if_pos hdepth]

end CallCoupling.Json
