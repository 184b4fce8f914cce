import CallCoupling.Proofs.Json.Spelling

/-!
# What may stand between quotes

Not every list of characters is the spelling of a string. `Json.Spelled` says which are, by the three ways to spell a
character: a backslash and a letter, a backslash and four hexadecimal digits, or the character itself, which is then
no quote, no backslash and no control. What `Json.escape` writes is of this form, and it is what the scanner lets
through.

Such a spelling has a text (`Spelled.exists_unescape`). Making it safe for a page touches only characters that stand
for themselves, so it stays a spelling, and of the same text (`Spelled.unescape_safeSpelling`).
-/

set_option autoImplicit false

namespace CallCoupling.Json

/-- A hexadecimal digit, as the scanner has it. -/
def isHex (c : Char) : Bool := ((Integer.digitValue? c).filter (· < 16)).isSome

/-- A character that marks markup or ends a line in a page. -/
def isMarkup (c : Char) : Bool :=
  c = '<' || c = '>' || c = '&' || c.toNat = 0x2028 || c.toNat = 0x2029

/-- The characters may stand between the quotes of a string. -/
inductive Spelled : List Char → Prop where
  | nil : Spelled []
  | itself {c : Char} {s : List Char} (hquote : c ≠ '"') (hbackslash : c ≠ '\\') (hvisible : 0x20 ≤ c.toNat)
    (h : Spelled s) : Spelled (c :: s)
  | letter {c : Char} {s : List Char} (hletter : (escapedLetter? c).isSome) (h : Spelled s) :
    Spelled ('\\' :: c :: s)
  | number {a b c d : Char} {s : List Char} (hhex : ∀ x ∈ [a, b, c, d], isHex x = true) (h : Spelled s) :
    Spelled ('\\' :: 'u' :: a :: b :: c :: d :: s)

/-! ## 1. Spellings -/

theorem isHex_hexDigit : ∀ d < 16, isHex (Text.hexDigit d) = true := by
  decide

theorem isHex_of_mem_hex {n : Nat} {c : Char} (hc : c ∈ Text.hex 4 n) : isHex c = true := by
  rw [hex_four] at hc
  simp only [List.mem_cons, List.not_mem_nil, or_false] at hc
  rcases hc with rfl | rfl | rfl | rfl
  all_goals exact isHex_hexDigit _ (Nat.mod_lt _ (by omega))

theorem Spelled.append {s t : List Char} (hs : Spelled s) (ht : Spelled t) : Spelled (s ++ t) := by
  induction hs with
  | nil => exact ht
  | itself hquote hbackslash hvisible _ ih => exact .itself hquote hbackslash hvisible ih
  | letter hletter _ ih => exact .letter hletter ih
  | number hhex _ ih => exact .number hhex ih

theorem spelled_hex (n : Nat) : Spelled ('\\' :: 'u' :: Text.hex 4 n) := by
  have hhex : ∀ c ∈ Text.hex 4 n, isHex c = true := fun c hc => isHex_of_mem_hex hc
  rw [hex_four] at hhex ⊢
  exact .number hhex .nil

theorem spelled_escapeChar (c : Char) : Spelled (escapeChar c) := by
  rcases escapeChar_cases c with ⟨letter, hspelled, hletter⟩ | ⟨-, hspelled⟩ | ⟨hspelled, hquote, hc, hle⟩
  · rw [hspelled]
    exact .letter (by rw [hletter]; rfl) .nil
  · rw [hspelled]
    exact spelled_hex _
  · rw [hspelled]
    exact .itself hquote hc hle .nil

/-- **What is written for a text may stand between quotes.** -/
theorem spelled_escape (s : String) : Spelled (escape s) := by
  rw [escape]
  induction s.toList with
  | nil => exact .nil
  | cons c cs ih => exact (spelled_escapeChar c).append ih

theorem exists_hexValue? {a b c d : Char} (hhex : ∀ x ∈ [a, b, c, d], isHex x = true) :
    ∃ n, hexValue? [a, b, c, d] = some n := by
  have hdigit : ∀ x ∈ [a, b, c, d], ∃ n, (Integer.digitValue? x).filter (· < 16) = some n :=
    fun x hx => Option.isSome_iff_exists.1 (hhex x hx)
  obtain ⟨na, ha⟩ := hdigit a (by simp)
  obtain ⟨nb, hb⟩ := hdigit b (by simp)
  obtain ⟨nc, hc⟩ := hdigit c (by simp)
  obtain ⟨nd, hd⟩ := hdigit d (by simp)
  refine ⟨((na * 16 + nb) * 16 + nc) * 16 + nd, ?_⟩
  rw [hexValue?]
  simp only [ha, hb, hc, hd]
  rfl

/-- **A spelling has a text.** -/
theorem Spelled.exists_unescapeFrom {s : List Char} (hs : Spelled s) (pending : Option Nat) :
    ∃ t, unescapeFrom pending s = some t := by
  induction hs generalizing pending with
  | nil => exact ⟨vain pending, by cases pending <;> rfl⟩
  | itself _ hbackslash _ _ ih =>
    obtain ⟨t, ht⟩ := ih none
    exact ⟨_, by rw [unescapeFrom_itself hbackslash, ht]; rfl⟩
  | letter hletter _ ih =>
    obtain ⟨t, ht⟩ := ih none
    obtain ⟨c, hc⟩ := Option.isSome_iff_exists.1 hletter
    exact ⟨_, by rw [unescapeFrom_letter hc, ht]; rfl⟩
  | number hhex _ ih =>
    obtain ⟨n, hn⟩ := exists_hexValue? hhex
    obtain ⟨t, ht⟩ := ih none
    obtain ⟨u, hu⟩ := ih (some n)
    rw [unescapeFrom, hn]
    dsimp only
    cases pending with
    | none =>
      dsimp only
      split
      · exact ⟨u, hu⟩
      · exact ⟨_, by rw [ht]; rfl⟩
    | some high =>
      dsimp only
      split_ifs
      · exact ⟨_, by rw [ht]; rfl⟩
      · exact ⟨_, by rw [hu]; rfl⟩
      · exact ⟨_, by rw [ht]; rfl⟩

theorem Spelled.exists_unescape {s : List Char} (hs : Spelled s) : ∃ t, unescape s = some t := by
  obtain ⟨t, ht⟩ := hs.exists_unescapeFrom none
  exact ⟨String.ofList t, by rw [unescape, ht]; rfl⟩

/-- What may stand in an escape is a letter, a digit, or one of three marks. -/
theorem toNat_of_isHex {c : Char} (hc : isHex c = true) :
    48 ≤ c.toNat ∧ c.toNat ≤ 57 ∨ 65 ≤ c.toNat ∧ c.toNat ≤ 90 ∨ 97 ≤ c.toNat ∧ c.toNat ≤ 122 := by
  unfold isHex Integer.digitValue? at hc
  split_ifs at hc with hdigit hsmall hcapital
  · simp only [Bool.and_eq_true, decide_eq_true_eq, Char.le_def, UInt32.le_iff_toNat_le] at hdigit
    exact Or.inl hdigit
  · simp only [Bool.and_eq_true, decide_eq_true_eq, Char.le_def, UInt32.le_iff_toNat_le] at hsmall
    exact Or.inr (Or.inr hsmall)
  · simp only [Bool.and_eq_true, decide_eq_true_eq, Char.le_def, UInt32.le_iff_toNat_le] at hcapital
    exact Or.inr (Or.inl hcapital)
  · cases hc

theorem toNat_of_escapedLetter {c : Char} (hc : (escapedLetter? c).isSome) :
    0x20 ≤ c.toNat ∧ isMarkup c = false := by
  have hmem : c ∈ ['"', '\\', '/', 'b', 'f', 'n', 'r', 't'] := by
    unfold escapedLetter? at hc
    split at hc <;> simp at hc ⊢
  have hall : ∀ c ∈ ['"', '\\', '/', 'b', 'f', 'n', 'r', 't'], 0x20 ≤ c.toNat ∧ isMarkup c = false := by
    simp [isMarkup]
  exact hall c hmem

/-- **No control stands between quotes.** -/
theorem Spelled.visible {s : List Char} (hs : Spelled s) : ∀ c ∈ s, 0x20 ≤ c.toNat := by
  induction hs with
  | nil => simp
  | itself _ _ hvisible _ ih => exact List.forall_mem_cons.2 ⟨hvisible, ih⟩
  | @letter c s hletter _ ih =>
    have hc := (toNat_of_escapedLetter hletter).1
    exact List.forall_mem_cons.2 ⟨by decide, List.forall_mem_cons.2 ⟨hc, ih⟩⟩
  | @number a b c d s hhex _ ih =>
    have hdigits : ∀ x ∈ [a, b, c, d], 0x20 ≤ x.toNat := by
      intro x hx
      have := toNat_of_isHex (hhex x hx)
      omega
    show ∀ x ∈ '\\' :: 'u' :: ([a, b, c, d] ++ s), 0x20 ≤ x.toNat
    refine List.forall_mem_cons.2 ⟨by decide, List.forall_mem_cons.2 ⟨by decide, ?_⟩⟩
    exact List.forall_mem_append.2 ⟨hdigits, ih⟩

/-! ## 2. Safe spellings -/

theorem safeSpelling_cons (c : Char) (s : List Char) :
    safeSpelling (c :: s) =
      (if isMarkup c then '\\' :: 'u' :: Text.hex 4 c.toNat else [c]) ++ safeSpelling s := by
  rw [safeSpelling, List.flatMap_cons]
  rfl

theorem safeSpelling_cons_of_not {c : Char} (hc : isMarkup c = false) (s : List Char) :
    safeSpelling (c :: s) = c :: safeSpelling s := by
  rw [safeSpelling_cons, if_neg (by simp [hc])]
  rfl

theorem safeSpelling_append_of_not {r : List Char} (hr : ∀ c ∈ r, isMarkup c = false) (s : List Char) :
    safeSpelling (r ++ s) = r ++ safeSpelling s := by
  induction r with
  | nil => rfl
  | cons c r ih =>
    rw [List.cons_append, safeSpelling_cons_of_not (hr c (by simp)), ih fun c hc => hr c (by simp [hc]),
      List.cons_append]

theorem not_isMarkup_of_isHex {c : Char} (hc : isHex c = true) : isMarkup c = false := by
  have hrange := toNat_of_isHex hc
  simp only [isMarkup, Bool.or_eq_false_iff, decide_eq_false_iff_not]
  refine ⟨⟨⟨⟨?_, ?_⟩, ?_⟩, by omega⟩, by omega⟩
  all_goals
    rintro rfl
    simp at hrange

theorem toNat_lt_of_isMarkup {c : Char} (hc : isMarkup c = true) : c.toNat < 0xD800 := by
  refine toNat_lt_of_byNumber ?_
  simp only [isMarkup, byNumber, Bool.or_eq_true] at hc ⊢
  tauto

/-- **A safe spelling is a spelling.** -/
theorem Spelled.safeSpelling {s : List Char} (hs : Spelled s) : Spelled (Json.safeSpelling s) := by
  induction hs with
  | nil => exact .nil
  | @itself c s hquote hbackslash hvisible _ ih =>
    cases hc : isMarkup c with
    | false =>
      rw [safeSpelling_cons_of_not hc]
      exact .itself hquote hbackslash hvisible ih
    | true =>
      rw [safeSpelling_cons, if_pos hc]
      exact (spelled_hex _).append ih
  | @letter c s hletter _ ih =>
    rw [safeSpelling_cons_of_not (by decide), safeSpelling_cons_of_not (toNat_of_escapedLetter hletter).2]
    exact .letter hletter ih
  | @number a b c d s hhex _ ih =>
    have hdigits : ∀ x ∈ [a, b, c, d], isMarkup x = false := fun x hx => not_isMarkup_of_isHex (hhex x hx)
    rw [safeSpelling_cons_of_not (by decide), safeSpelling_cons_of_not (by decide)]
    have := safeSpelling_append_of_not hdigits s
    simp only [List.cons_append, List.nil_append] at this
    rw [this]
    exact .number hhex ih

/-- Only characters that stand for themselves are spelled anew, so the text stays the same. -/
theorem Spelled.unescapeFrom_safeSpelling {s : List Char} (hs : Spelled s) (pending : Option Nat) :
    unescapeFrom pending (Json.safeSpelling s) = unescapeFrom pending s := by
  induction hs generalizing pending with
  | nil => rfl
  | @itself c s hquote hbackslash hvisible _ ih =>
    rw [unescapeFrom_itself hbackslash]
    cases hc : isMarkup c with
    | false => rw [safeSpelling_cons_of_not hc, unescapeFrom_itself hbackslash, ih]
    | true =>
      rw [safeSpelling_cons, if_pos hc, unescapeFrom_number (toNat_lt_of_isMarkup hc), ih, Char.ofNat_toNat]
  | @letter letter s hletter _ ih =>
    obtain ⟨c, hc⟩ := Option.isSome_iff_exists.1 hletter
    rw [safeSpelling_cons_of_not (by decide), safeSpelling_cons_of_not (toNat_of_escapedLetter hletter).2,
      unescapeFrom_letter hc, unescapeFrom_letter hc, ih]
  | @number a b c d s hhex _ ih =>
    have hdigits : ∀ x ∈ [a, b, c, d], isMarkup x = false := fun x hx => not_isMarkup_of_isHex (hhex x hx)
    rw [safeSpelling_cons_of_not (by decide), safeSpelling_cons_of_not (by decide)]
    have := safeSpelling_append_of_not hdigits s
    simp only [List.cons_append, List.nil_append] at this
    rw [this, unescapeFrom, unescapeFrom]
    simp only [ih]

/-- **A safe spelling has the same text.** -/
theorem Spelled.unescape_safeSpelling {s : List Char} (hs : Spelled s) :
    unescape (Json.safeSpelling s) = unescape s := by
  rw [unescape, hs.unescapeFrom_safeSpelling, unescape]

end CallCoupling.Json
