import CallCoupling.Json.Value
import Mathlib

/-!
# Texts and whole numbers survive their spelling

`Json.escape` spells a text and `Json.unescape` reads a spelling; `Integer.text` spells a whole number and
`Integer.parseDecimal` reads one. Each reader undoes its writer, for every text and for every number of 64 bits.

Both go one character at a time. The spelling of a character is a letter behind a backslash, four hexadecimal
digits, or the character itself, and what follows it is read on its own (`Json.unescapeFrom_escapeChar`); no
character is spelled by two halves, so the reader never waits for one. Digits are read from the left into a
number that only grows, so if the whole number fits, so does every part of it on the way.
-/

set_option autoImplicit false

namespace CallCoupling

/-! ## 1. Hexadecimal digits -/

namespace Json

theorem digitValue?_hexDigit : ∀ d < 16, Integer.digitValue? (Text.hexDigit d) = some d := by
  decide

theorem hex_four (n : Nat) :
    Text.hex 4 n = [Text.hexDigit (n / 16 / 16 / 16 % 16), Text.hexDigit (n / 16 / 16 % 16),
      Text.hexDigit (n / 16 % 16), Text.hexDigit (n % 16)] := by
  simp [Text.hex]

theorem hexValue?_hex {n : Nat} (hn : n < 0x10000) : hexValue? (Text.hex 4 n) = some n := by
  have hdigit : ∀ m, (Integer.digitValue? (Text.hexDigit (m % 16))).filter (· < 16) = some (m % 16) := by
    intro m
    have hlt : m % 16 < 16 := Nat.mod_lt m (by omega)
    rw [digitValue?_hexDigit _ hlt, Option.filter_some]
    simp [hlt]
  rw [hex_four, hexValue?]
  simp only [hdigit]
  show some _ = some n
  congr 1
  omega

/-! ## 2. Texts -/

/-- The character is spelled by its number. -/
def byNumber (c : Char) : Bool :=
  c.toNat < 0x20 || c = '<' || c = '>' || c = '&' || c.toNat = 0x2028 || c.toNat = 0x2029

theorem toNat_lt_of_byNumber {c : Char} (hc : byNumber c = true) : c.toNat < 0xD800 := by
  simp only [byNumber, Bool.or_eq_true, decide_eq_true_eq] at hc
  rcases hc with ((((hc | rfl) | rfl) | rfl) | hc) | hc
  · omega
  · decide
  · decide
  · decide
  · omega
  · omega

theorem eq_ofNat {c : Char} {n : Nat} (hc : c.toNat = n) : c = Char.ofNat n := by
  rw [← hc, Char.ofNat_toNat]

/-- **The three ways to spell a character**: by a letter, by number, or as it is. -/
theorem escapeChar_cases (c : Char) :
    (∃ letter, escapeChar c = ['\\', letter] ∧ escapedLetter? letter = some c) ∨
      (byNumber c = true ∧ escapeChar c = '\\' :: 'u' :: Text.hex 4 c.toNat) ∨
      (escapeChar c = [c] ∧ c ≠ '"' ∧ c ≠ '\\' ∧ 0x20 ≤ c.toNat) := by
  -- The spelling is named first, so that it is split once and not in each of the three cases.
  generalize hspelled : escapeChar c = spelling
  unfold escapeChar at hspelled
  dsimp only at hspelled
  split_ifs at hspelled with hquote hbackslash hback hfeed hline hreturn htab hnumber <;> subst hspelled
  · exact Or.inl ⟨'"', rfl, by rw [hquote]; rfl⟩
  · exact Or.inl ⟨'\\', rfl, by rw [hbackslash]; rfl⟩
  · exact Or.inl ⟨'b', rfl, by rw [eq_ofNat hback]; rfl⟩
  · exact Or.inl ⟨'f', rfl, by rw [eq_ofNat hfeed]; rfl⟩
  · exact Or.inl ⟨'n', rfl, by rw [eq_ofNat hline]; rfl⟩
  · exact Or.inl ⟨'r', rfl, by rw [eq_ofNat hreturn]; rfl⟩
  · exact Or.inl ⟨'t', rfl, by rw [eq_ofNat htab]; rfl⟩
  · exact Or.inr (Or.inl ⟨hnumber, rfl⟩)
  · simp only [Bool.or_eq_true, decide_eq_true_eq, not_or] at hnumber
    exact Or.inr (Or.inr ⟨rfl, hquote, hbackslash, by omega⟩)

/-- What a half that waits for its second becomes when it waits in vain. -/
def vain : Option Nat → List Char
  | some _ => [Loose.replacement]
  | none => []

theorem unescapeFrom_itself {c : Char} (hc : c ≠ '\\') (pending : Option Nat) (rest : List Char) :
    unescapeFrom pending (c :: rest) = (unescapeFrom none rest).map (vain pending ++ c :: ·) := by
  rw [unescapeFrom]
  · cases pending <;> rfl
  · intro _ _ _ _ _ heq
    exact absurd heq hc
  · intro _ _ heq
    exact absurd heq hc

theorem unescapeFrom_letter {letter c : Char} (hletter : escapedLetter? letter = some c) (pending : Option Nat)
    (rest : List Char) :
    unescapeFrom pending ('\\' :: letter :: rest) = (unescapeFrom none rest).map (vain pending ++ c :: ·) := by
  rw [unescapeFrom]
  · rw [hletter]
    cases pending <;> rfl
  · rintro _ _ _ _ _ rfl
    cases hletter

/-- A character that is spelled by its number is no half, so nothing waits behind it. -/
theorem unescapeFrom_number {n : Nat} (hn : n < 0xD800) (pending : Option Nat) (rest : List Char) :
    unescapeFrom pending ('\\' :: 'u' :: Text.hex 4 n ++ rest) =
      (unescapeFrom none rest).map (vain pending ++ Char.ofNat n :: ·) := by
  have hhigh : isHighHalf n = false := by simp [isHighHalf]; omega
  have hlow : isLowHalf n = false := by simp [isLowHalf]; omega
  have hvalue := hexValue?_hex (n := n) (by omega)
  rw [hex_four] at hvalue ⊢
  show unescapeFrom pending ('\\' :: 'u' :: _ :: _ :: _ :: _ :: rest) = _
  rw [unescapeFrom, hvalue]
  cases pending <;> simp [hhigh, hlow, single, vain]

/-- **A spelled character is read back**, and what follows it is read on its own. -/
theorem unescapeFrom_escapeChar (c : Char) (rest : List Char) :
    unescapeFrom none (escapeChar c ++ rest) = (unescapeFrom none rest).map (c :: ·) := by
  rcases escapeChar_cases c with ⟨letter, hspelled, hletter⟩ | ⟨hc, hspelled⟩ | ⟨hspelled, -, hc, -⟩
  · rw [hspelled]
    exact unescapeFrom_letter hletter none rest
  · rw [hspelled, unescapeFrom_number (toNat_lt_of_byNumber hc), Char.ofNat_toNat]
    rfl
  · rw [hspelled]
    exact unescapeFrom_itself hc none rest

/-- **A text is read back from its spelling.** -/
theorem unescape_escape (s : String) : unescape (escape s) = some s := by
  have hchars : ∀ cs : List Char, unescapeFrom none (cs.flatMap escapeChar) = some cs := by
    intro cs
    induction cs with
    | nil => rfl
    | cons c cs ih => rw [List.flatMap_cons, unescapeFrom_escapeChar, ih]; rfl
  rw [unescape, escape, hchars, Option.map_some, String.ofList_toList]

/-- The fields of an object are read back with their names. -/
theorem fields?_ofFields (fields : List (String × Json)) : (Json.ofFields fields).fields? = some fields := by
  simp [Json.ofFields, fields?, Function.comp_def, unescape_escape]

end Json

/-! ## 3. Whole numbers -/

namespace Integer

theorem digitValue?_of_isDigit {c : Char} (hc : c.isDigit = true) :
    digitValue? c = some (c.toNat - '0'.toNat) ∧ c.toNat - '0'.toNat < 10 := by
  have hrange := Char.isDigit_iff_toNat.1 hc
  refine ⟨?_, by simp only [Char.reduceToNat] at hrange ⊢; omega⟩
  rw [digitValue?, if_pos]
  · rfl
  · simpa [Char.le_def, UInt32.le_iff_toNat_le] using hrange

/-- What is read only grows. -/
theorem le_ofDigitChars (digits : List Char) (n : Nat) : n ≤ Nat.ofDigitChars 10 digits n := by
  rw [Nat.ofDigitChars_eq_ofDigitChars_zero]
  have hgrown : 1 * n ≤ 10 ^ digits.length * n := Nat.mul_le_mul_right n (Nat.one_le_pow _ _ (by omega))
  omega

/-- **Digits are read to their number**, if it fits: then what is read on the way fits too. -/
theorem readDigits_eq_ok {digits : List Char} {n : Nat} (hdigits : ∀ c ∈ digits, c.isDigit = true)
    (hfits : Nat.ofDigitChars 10 digits n < 18446744073709551616) :
    readDigits 10 false n digits = .ok (Nat.ofDigitChars 10 digits n) := by
  induction digits generalizing n with
  | nil => rfl
  | cons c cs ih =>
    obtain ⟨hvalue, hlt⟩ := digitValue?_of_isDigit (hdigits c (by simp))
    rw [Nat.ofDigitChars_cons, Nat.mul_comm 10 n] at hfits ⊢
    -- The number at the end fits, and it is at least what has been read up to here.
    have hgrown := le_ofDigitChars cs (n * 10 + (c.toNat - '0'.toNat))
    rw [readDigits, if_neg (by simp), hvalue]
    dsimp only
    rw [if_neg (by omega), if_neg (by omega)]
    exact ih (fun c hc => hdigits c (by simp [hc])) hfits

theorem isDigit_of_mem_toDigits {n : Nat} : ∀ c ∈ Nat.toDigits 10 n, c.isDigit = true := by
  intro c hc
  exact Nat.isDigit_of_mem_toDigits (by omega) (by omega) hc

theorem toDigits_eq_cons (n : Nat) :
    ∃ c cs, Nat.toDigits 10 n = c :: cs ∧ c.isDigit = true ∧ ∀ c ∈ cs, c.isDigit = true := by
  cases hdigits : Nat.toDigits 10 n with
  | nil => exact absurd hdigits Nat.toDigits_ne_nil
  | cons c cs =>
    have hall := isDigit_of_mem_toDigits (n := n)
    rw [hdigits] at hall
    exact ⟨c, cs, rfl, hall c (by simp), fun c hc => hall c (by simp [hc])⟩

/-- Only zero begins with the digit zero. -/
theorem toDigits_head (n : Nat) :
    Nat.toDigits 10 n = ['0'] ∨ ∃ c cs, Nat.toDigits 10 n = c :: cs ∧ c ≠ '0' := by
  induction n using Nat.strongRecOn with
  | _ n ih =>
    by_cases hn : n < 10
    · rw [Nat.toDigits_of_lt_base hn]
      by_cases hzero : n.digitChar = '0'
      · exact Or.inl (by rw [hzero])
      · exact Or.inr ⟨_, _, rfl, hzero⟩
    · rw [Nat.toDigits_eq_if (by omega), if_neg hn]
      rcases ih (n / 10) (by omega) with hzero | ⟨c, cs, hcons, hc⟩
      · have hvalue := @Nat.ofDigitChars_ten_toDigits (n / 10)
        rw [hzero] at hvalue
        have : n / 10 = 0 := hvalue.symm
        omega
      · exact Or.inr ⟨c, cs ++ [(n % 10).digitChar], by rw [hcons]; rfl, hc⟩

theorem text_toList (n : Int) :
    (text n).toList = if n < 0 then '-' :: Nat.toDigits 10 n.natAbs else Nat.toDigits 10 n.natAbs := by
  unfold text
  split
  · rw [String.toList_append, String.toList_ofList, String.toList_ofList]; rfl
  · rw [String.toList_ofList]

theorem signOf_text (n : Int) :
    signOf (text n).toList = (decide (n < 0), Nat.toDigits 10 n.natAbs) := by
  rw [text_toList]
  split
  · simp [signOf, *]
  · obtain ⟨c, cs, hcons, hc, -⟩ := toDigits_eq_cons n.natAbs
    rw [hcons, signOf]
    · simp [*]
    · rintro _ ⟨⟩
      simp at hc
    · rintro _ ⟨⟩
      simp at hc

/-- **A number of 64 bits is read back from its spelling.** -/
theorem parseDecimal_text {n : Int} (hn : fits n = true) : parseDecimal (text n) = .ok n := by
  obtain ⟨hleast, hgreatest⟩ : least ≤ n ∧ n ≤ greatest := by simpa [fits] using hn
  simp only [least, greatest] at hleast hgreatest
  have hread : readDigits 10 false 0 (Nat.toDigits 10 n.natAbs) = .ok n.natAbs := by
    have hvalue := @Nat.ofDigitChars_ten_toDigits n.natAbs
    rw [readDigits_eq_ok isDigit_of_mem_toDigits (by omega), hvalue]
  have hbody : (Nat.toDigits 10 n.natAbs).isEmpty = false :=
    List.isEmpty_eq_false_iff.mpr Nat.toDigits_ne_nil
  rw [parseDecimal, signOf_text]
  dsimp only
  rw [hbody, hread, if_neg (by simp)]
  dsimp only [signed]
  by_cases hneg : n < 0
  · rw [if_pos (by simpa using hneg), if_pos (by omega)]
    congr 1
    omega
  · rw [if_neg (by simpa using hneg), if_pos (by omega)]
    congr 1
    omega

end Integer

end CallCoupling
