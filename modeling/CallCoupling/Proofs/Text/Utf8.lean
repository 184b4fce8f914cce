import CallCoupling.Text.Loose
import Mathlib

/-!
# Text survives its bytes

Bytes are read by the rules for well-formed text, and what breaks them is kept as stray bytes. Bytes that *are*
the encoding of some text break nothing: each character is read back whole, with exactly the bytes that it was
written with (`Loose.ofBytes_encode`), and so is a text (`Loose.ofBytes_toBytes_ofString`).

A character is written with one to four bytes, and those are the cases. The first byte tells how many; the limits
on the second byte (`Loose.secondRange`) are met because a character is neither written longer than needed, nor
a surrogate, nor past the last one.
-/

set_option autoImplicit false

namespace CallCoupling.Loose

/-! ## 1. Bytes as numbers -/

theorem toNat_ofNat_of_lt {n : Nat} (hn : n < 256) : (UInt8.ofNat n).toNat = n := by
  rw [UInt8.toNat_ofNat']
  omega

theorem ofNat_lt {n : Nat} (k : Nat) (hnk : n < k) (hk : k < 256) :
    UInt8.ofNat n < (OfNat.ofNat k : UInt8) := by
  have hbyte : (OfNat.ofNat k : UInt8).toNat = k := toNat_ofNat_of_lt hk
  rw [UInt8.lt_iff_toNat_lt, toNat_ofNat_of_lt (by omega), hbyte]
  exact hnk

theorem not_ofNat_lt {n : Nat} (k : Nat) (hkn : k ≤ n) (hn : n < 256) :
    ¬ UInt8.ofNat n < (OfNat.ofNat k : UInt8) := by
  have hbyte : (OfNat.ofNat k : UInt8).toNat = k := toNat_ofNat_of_lt (by omega)
  rw [UInt8.lt_iff_toNat_lt, toNat_ofNat_of_lt hn, hbyte]
  exact Nat.not_lt.2 hkn

theorem isContinuation_ofNat (n : Nat) : isContinuation (UInt8.ofNat (n % 64 + 128)) = true := by
  have hbyte : (UInt8.ofNat (n % 64 + 128)).toNat = n % 64 + 128 := toNat_ofNat_of_lt (by omega)
  simp only [isContinuation, UInt8.le_iff_toNat_le, hbyte, Bool.and_eq_true, decide_eq_true_eq]
  exact ⟨by simp, by simp; omega⟩

theorem payload_ofNat (n : Nat) : payload (UInt8.ofNat (n % 64 + 128)) = n % 64 := by
  have hbyte : (UInt8.ofNat (n % 64 + 128)).toNat = n % 64 + 128 := toNat_ofNat_of_lt (by omega)
  unfold payload
  rw [hbyte, Nat.add_sub_cancel]

/-! ## 2. Characters by the number of their bytes -/

theorem charAt_one {v : Nat} (hv : v ≤ 0x7F) (rest : List UInt8) :
    charAt (UInt8.ofNat v) rest = some (Char.ofNat v, 0) := by
  rw [charAt.eq_def, if_pos (ofNat_lt 0x80 (by omega) (by omega)), toNat_ofNat_of_lt (by omega)]

theorem charAt_two {v : Nat} (hlow : 0x7F < v) (hv : v ≤ 0x7FF) (rest : List UInt8) :
    charAt (UInt8.ofNat (v / 64 % 32 + 192)) (UInt8.ofNat (v % 64 + 128) :: rest) =
      some (Char.ofNat v, 1) := by
  have hnumber : (v / 64 % 32 + 192 - 0xC0) * 64 + v % 64 = v := by omega
  rw [charAt, if_neg (not_ofNat_lt 0x80 (by omega) (by omega)),
    if_neg (not_ofNat_lt 0xC2 (by omega) (by omega)), if_pos (ofNat_lt 0xE0 (by omega) (by omega)),
    if_pos (isContinuation_ofNat v), payload_ofNat, toNat_ofNat_of_lt (by omega), hnumber]

/-- A second byte is inside the limits of the first, if the number is where they want it. -/
theorem secondRange_ofNat {n m : Nat} (hn : n < 256) (hE0 : n = 0xE0 → 32 ≤ m % 64)
    (hED : n = 0xED → m % 64 < 32) (hF0 : n = 0xF0 → 16 ≤ m % 64) (hF4 : n = 0xF4 → m % 64 < 16) :
    (secondRange (UInt8.ofNat n)).1 ≤ UInt8.ofNat (m % 64 + 128) ∧
      UInt8.ofNat (m % 64 + 128) ≤ (secondRange (UInt8.ofNat n)).2 := by
  have hbyte : (UInt8.ofNat (m % 64 + 128)).toNat = m % 64 + 128 := toNat_ofNat_of_lt (by omega)
  have hfirst : ∀ k : UInt8, (UInt8.ofNat n == k) = true → n = k.toNat := by
    intro k hk
    rw [← beq_iff_eq.1 hk, toNat_ofNat_of_lt hn]
  unfold secondRange
  rw [UInt8.le_iff_toNat_le, UInt8.le_iff_toNat_le, hbyte]
  split
  · rename_i hk
    have := hE0 (hfirst _ hk)
    show 160 ≤ _ ∧ _ ≤ 191
    omega
  split
  · rename_i hk
    have := hED (hfirst _ hk)
    show 128 ≤ _ ∧ _ ≤ 159
    omega
  split
  · rename_i hk
    have := hF0 (hfirst _ hk)
    show 144 ≤ _ ∧ _ ≤ 191
    omega
  split
  · rename_i hk
    have := hF4 (hfirst _ hk)
    show 128 ≤ _ ∧ _ ≤ 143
    omega
  · show 128 ≤ _ ∧ _ ≤ 191
    omega

theorem charAt_three {v : Nat} (hlow : 0x7FF < v) (hv : v ≤ 0xFFFF) (hsurrogate : v < 0xD800 ∨ 0xDFFF < v)
    (rest : List UInt8) :
    charAt (UInt8.ofNat (v / 4096 % 16 + 224))
        (UInt8.ofNat (v / 64 % 64 + 128) :: UInt8.ofNat (v % 64 + 128) :: rest) =
      some (Char.ofNat v, 2) := by
  have hnumber : ((v / 4096 % 16 + 224 - 0xE0) * 64 + v / 64 % 64) * 64 + v % 64 = v := by omega
  -- Not written longer than needed, and no surrogate.
  obtain ⟨hleast, hgreatest⟩ := secondRange_ofNat (n := v / 4096 % 16 + 224) (m := v / 64) (by omega)
    (by omega) (by omega) (by omega) (by omega)
  rw [charAt, if_neg (not_ofNat_lt 0x80 (by omega) (by omega)),
    if_neg (not_ofNat_lt 0xC2 (by omega) (by omega)), if_neg (not_ofNat_lt 0xE0 (by omega) (by omega)),
    if_pos (ofNat_lt 0xF0 (by omega) (by omega))]
  simp only [decide_eq_true hleast, decide_eq_true hgreatest, isContinuation_ofNat, Bool.and_self, if_true]
  rw [payload_ofNat, payload_ofNat, toNat_ofNat_of_lt (by omega), hnumber]

theorem charAt_four {v : Nat} (hlow : 0xFFFF < v) (hv : v < 0x110000) (rest : List UInt8) :
    charAt (UInt8.ofNat (v / 262144 % 8 + 240))
        (UInt8.ofNat (v / 4096 % 64 + 128) :: UInt8.ofNat (v / 64 % 64 + 128) ::
          UInt8.ofNat (v % 64 + 128) :: rest) =
      some (Char.ofNat v, 3) := by
  have hnumber :
      (((v / 262144 % 8 + 240 - 0xF0) * 64 + v / 4096 % 64) * 64 + v / 64 % 64) * 64 + v % 64 = v := by
    omega
  -- Not written longer than needed, and not past the last character.
  obtain ⟨hleast, hgreatest⟩ := secondRange_ofNat (n := v / 262144 % 8 + 240) (m := v / 4096) (by omega)
    (by omega) (by omega) (by omega) (by omega)
  rw [charAt, if_neg (not_ofNat_lt 0x80 (by omega) (by omega)),
    if_neg (not_ofNat_lt 0xC2 (by omega) (by omega)), if_neg (not_ofNat_lt 0xE0 (by omega) (by omega)),
    if_neg (not_ofNat_lt 0xF0 (by omega) (by omega)), if_pos (ofNat_lt 0xF5 (by omega) (by omega))]
  simp only [decide_eq_true hleast, decide_eq_true hgreatest, isContinuation_ofNat, Bool.and_self, if_true]
  rw [payload_ofNat, payload_ofNat, payload_ofNat, toNat_ofNat_of_lt (by omega), hnumber]

/-! ## 3. Texts -/

/-- **A character is read back from its bytes**, and what follows it is read on its own. -/
theorem ofBytes_encode (c : Char) (rest : List UInt8) :
    ofBytes (String.utf8EncodeChar c ++ rest) = .char c :: ofBytes rest := by
  have hvalid : c.val.toNat < 0xD800 ∨ 0xDFFF < c.val.toNat ∧ c.val.toNat < 0x110000 := c.valid
  unfold String.utf8EncodeChar
  dsimp only
  split
  · rename_i h1
    rw [List.singleton_append, ofBytes, charAt_one h1]
    simp
  split
  · rename_i h1 h2
    rw [List.cons_append, List.singleton_append, ofBytes, charAt_two (by omega) h2]
    simp
  split
  · rename_i h1 h2 h3
    rw [List.cons_append, List.cons_append, List.singleton_append, ofBytes,
      charAt_three (by omega) h3 (by omega)]
    simp
  · rename_i h1 h2 h3
    rw [List.cons_append, List.cons_append, List.cons_append, List.singleton_append, ofBytes,
      charAt_four (by omega) (by omega)]
    simp

/-- **A text is read back from its bytes.** -/
theorem ofBytes_toBytes_ofString (s : String) : ofBytes (ofString s).toBytes = ofString s := by
  unfold ofString
  induction s.toList with
  | nil => simp [toBytes, ofBytes]
  | cons c cs ih =>
    have hbytes : toBytes ((c :: cs).map Glyph.char) =
        String.utf8EncodeChar c ++ toBytes (cs.map Glyph.char) := List.flatMap_cons
    rw [hbytes, ofBytes_encode, ih]
    rfl

theorem shownChars_ofString (s : String) : (ofString s).shownChars = s.toList := by
  rw [shownChars, ofString, List.map_map]
  exact List.map_id s.toList

/-- Loose text without stray bytes is the text that it shows. -/
theorem ofString_shown {t : Loose} (ht : t.isText = true) : ofString t.shown = t := by
  rw [ofString, shown, String.toList_ofList, shownChars, List.map_map]
  conv_rhs => rw [← List.map_id t]
  refine List.map_congr_left fun glyph hglyph => ?_
  have htext := List.all_eq_true.1 ht glyph hglyph
  cases glyph with
  | char c => rfl
  | stray b => cases htext

end CallCoupling.Loose
