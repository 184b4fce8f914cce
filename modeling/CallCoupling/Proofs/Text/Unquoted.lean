import CallCoupling.Text.Quoted
import CallCoupling.Proofs.Json.Spelling
import Mathlib

/-!
# Quoted text is read back

`Text.quoted` puts a text between quotes and `Text.unquoteFrom` reads what stands behind an opening quote, up to the
closing one. Reading undoes quoting for every text, whatever follows (`Text.unquoteFrom_quoted`), so a quoted text
needs no separator behind it: it says itself where it ends.

A character stands as itself, as a letter behind a backslash, or by its number (`Text.quotedChar_cases`). The letter
of a number tells how many digits belong to it, so the reader never has to guess.
-/

set_option autoImplicit false

namespace CallCoupling.Text

/-! ## 1. Hexadecimal digits -/

/-- Read hexadecimal digits after those that gave `n`. -/
def unhexFrom? : Nat → List Char → Option Nat
  | n, [] => some n
  | n, c :: cs => ((Integer.digitValue? c).filter (· < 16)).bind fun d => unhexFrom? (n * 16 + d) cs

theorem unhexFrom?_append (n : Nat) (cs ds : List Char) :
    unhexFrom? n (cs ++ ds) = (unhexFrom? n cs).bind fun m => unhexFrom? m ds := by
  induction cs generalizing n with
  | nil => rfl
  | cons c cs ih =>
    rw [List.cons_append, unhexFrom?, unhexFrom?, Option.bind_assoc]
    simp only [ih]

theorem unhexFrom?_hex (width n m : Nat) :
    unhexFrom? m (hex width n) = some (m * 16 ^ width + n % 16 ^ width) := by
  induction width generalizing n with
  | zero => simp [hex, unhexFrom?, Nat.mod_one]
  | succ width ih =>
    have hlt : n % 16 < 16 := Nat.mod_lt n (by omega)
    have hdigit : (Integer.digitValue? (hexDigit (n % 16))).filter (· < 16) = some (n % 16) := by
      rw [Json.digitValue?_hexDigit _ hlt, Option.filter_some]
      simp [hlt]
    -- The last digit is split off the number, as `hex` writes it.
    have hnumber : (m * 16 ^ width + n / 16 % 16 ^ width) * 16 + n % 16 =
        m * 16 ^ (width + 1) + n % 16 ^ (width + 1) := by
      rw [Nat.pow_succ', Nat.mod_mul]
      ring
    rw [hex, unhexFrom?_append, ih]
    show unhexFrom? _ [hexDigit (n % 16)] = _
    rw [unhexFrom?, hdigit]
    show some _ = some _
    rw [hnumber]

theorem length_hex (width n : Nat) : (hex width n).length = width := by
  induction width generalizing n with
  | zero => rfl
  | succ width ih => rw [hex, List.length_append, ih, List.length_singleton]

/-! ## 2. The reader -/

/-- How many digits follow a letter that announces a number. -/
def numberWidth? : Char → Option Nat
  | 'x' => some 2
  | 'u' => some 4
  | 'U' => some 8
  | _ => none

/-- What any other letter behind a backslash stands for. -/
def unquotedLetter? : Char → Option Char
  | '"' => some '"'
  | '\\' => some '\\'
  | 'a' => some (Char.ofNat 7)
  | 'b' => some (Char.ofNat 8)
  | 't' => some (Char.ofNat 9)
  | 'n' => some (Char.ofNat 10)
  | 'v' => some (Char.ofNat 11)
  | 'f' => some (Char.ofNat 12)
  | 'r' => some (Char.ofNat 13)
  | _ => none

/-- The text up to the closing quote, and what stands behind it. -/
def unquoteFrom : List Char → Option (List Char × List Char)
  | [] => none
  | '"' :: cs => some ([], cs)
  | ['\\'] => none
  | '\\' :: letter :: cs =>
    match numberWidth? letter with
    | some width =>
      match unhexFrom? 0 (cs.take width), unquoteFrom (cs.drop width) with
      | some n, some (text, rest) => some (Char.ofNat n :: text, rest)
      | _, _ => none
    | none =>
      match unquotedLetter? letter, unquoteFrom cs with
      | some c, some (text, rest) => some (c :: text, rest)
      | _, _ => none
  | c :: cs =>
    match unquoteFrom cs with
    | some (text, rest) => some (c :: text, rest)
    | none => none
termination_by cs => cs.length
decreasing_by
  · simp only [List.length_drop, List.length_cons]
    omega
  · simp
  · simp

theorem length_unquoteFrom {cs text rest : List Char} (h : unquoteFrom cs = some (text, rest)) :
    rest.length < cs.length := by
  fun_induction unquoteFrom cs generalizing text with
  | case1 => cases h
  | case2 cs =>
    cases h
    exact Nat.lt_succ_self _
  | case3 => cases h
  | case4 letter cs width hwidth n text' rest' hread hnumber ih =>
    cases h
    have hshorter := ih hread
    simp only [List.length_drop, List.length_cons] at hshorter ⊢
    omega
  | case5 => cases h
  | case6 letter cs hwidth c text' rest' hread hletter ih =>
    cases h
    have hshorter := ih hread
    simp only [List.length_cons]
    omega
  | case7 => cases h
  | case8 c cs hquote hlone hbackslash text' rest' hread ih =>
    cases h
    have hshorter := ih hread
    simp only [List.length_cons]
    omega
  | case9 => cases h

/-! ## 3. Reading undoes quoting -/

theorem unquotedLetter?_controlLetter {c letter : Char} (h : controlLetter? c = some letter) :
    numberWidth? letter = none ∧ unquotedLetter? letter = some c := by
  unfold controlLetter? at h
  split at h <;> cases h
  all_goals
    rename_i hc
    rw [Json.eq_ofNat hc]
    exact ⟨rfl, rfl⟩

/-- **The three ways in which a character stands between quotes.** -/
theorem quotedChar_cases (c : Char) :
    (∃ letter, quotedChar '"' c = ['\\', letter] ∧ numberWidth? letter = none ∧
        unquotedLetter? letter = some c) ∨
      (∃ letter width, quotedChar '"' c = '\\' :: letter :: hex width c.toNat ∧
        numberWidth? letter = some width ∧ c.toNat < 16 ^ width) ∨
      (quotedChar '"' c = [c] ∧ c ≠ '"' ∧ c ≠ '\\') := by
  by_cases hmark : c = '"' ∨ c = '\\'
  · rcases hmark with rfl | rfl
    · exact Or.inl ⟨'"', rfl, rfl, rfl⟩
    · exact Or.inl ⟨'\\', rfl, rfl, rfl⟩
  · unfold quotedChar
    rw [if_neg (by simpa using hmark)]
    by_cases hprintable : isPrintable c = true
    · rw [if_pos hprintable]
      exact Or.inr (Or.inr ⟨rfl, not_or.1 hmark⟩)
    · rw [if_neg hprintable]
      cases hletter : controlLetter? c with
      | some letter => exact Or.inl ⟨letter, rfl, unquotedLetter?_controlLetter hletter⟩
      | none =>
        refine Or.inr (Or.inl ?_)
        dsimp only
        split_ifs with hbyte hshort
        · exact ⟨'x', 2, rfl, rfl, by omega⟩
        · exact ⟨'u', 4, rfl, rfl, by omega⟩
        · have hvalid : c.toNat < 0xD800 ∨ 0xDFFF < c.toNat ∧ c.toNat < 0x110000 := c.valid
          exact ⟨'U', 8, rfl, rfl, by omega⟩

/-- **A quoted character is read back**, and what follows it is read on its own. -/
theorem unquoteFrom_quotedChar (c : Char) {rest text after : List Char}
    (hrest : unquoteFrom rest = some (text, after)) :
    unquoteFrom (quotedChar '"' c ++ rest) = some (c :: text, after) := by
  rcases quotedChar_cases c with ⟨letter, hspelled, hwidth, hletter⟩ | ⟨letter, width, hspelled, hwidth, hlt⟩ |
    ⟨hspelled, hquote, hbackslash⟩
  · rw [hspelled]
    show unquoteFrom ('\\' :: letter :: rest) = _
    rw [unquoteFrom, hwidth]
    simp [hletter, hrest]
  · have hlength := length_hex width c.toNat
    have htake : (hex width c.toNat ++ rest).take width = hex width c.toNat := List.take_left' hlength
    have hdrop : (hex width c.toNat ++ rest).drop width = rest := List.drop_left' hlength
    rw [hspelled]
    show unquoteFrom ('\\' :: letter :: (hex width c.toNat ++ rest)) = _
    rw [unquoteFrom, hwidth]
    simp only [htake, hdrop, unhexFrom?_hex, hrest, Nat.zero_mul, Nat.zero_add, Nat.mod_eq_of_lt hlt,
      Char.ofNat_toNat]
  · rw [hspelled]
    show unquoteFrom (c :: rest) = _
    rw [unquoteFrom]
    · rw [hrest]
    · exact hquote
    · intro h
      exact absurd h hbackslash
    · intro _ _ h
      exact absurd h hbackslash

/-- **A quoted text is read back, whatever follows it.** -/
theorem unquoteFrom_quoted (cs rest : List Char) :
    unquoteFrom (cs.flatMap (quotedChar '"') ++ '"' :: rest) = some (cs, rest) := by
  induction cs with
  | nil => rw [List.flatMap_nil, List.nil_append, unquoteFrom]
  | cons c cs ih =>
    rw [List.flatMap_cons, List.append_assoc]
    exact unquoteFrom_quotedChar c ih

theorem toList_quotedLoose_ofString (s : String) :
    (quotedLoose (Loose.ofString s)).toList = '"' :: (s.toList.flatMap (quotedChar '"') ++ ['"']) := by
  rw [quotedLoose, String.toList_ofList, Loose.ofString, List.flatMap_map]
  rfl

end CallCoupling.Text
