import CallCoupling.Proofs.Text.Utf8

/-!
# Bytes survive being read

Reading bytes loses nothing: the text that is read has the bytes that were given (`Loose.toBytes_ofBytes`). The
other way round a text need not come back from its bytes, for stray bytes that stand side by side may spell a
character together. A text that does come back is *settled*. What is written piece by piece is settled if each piece
is and starts with a character of one byte (`Loose.Settled.append`): such a byte belongs to no longer character, so
reading can be cut in two before it (`Loose.ofBytes_append`).

Of a settled text the bytes tell what a reader wants to know: they are well-formed exactly if there is no stray byte
in the text (`Loose.Settled.isValidUTF8_iff`), and a byte of ASCII is among them exactly if its character is in the
text (`Loose.Settled.mem_toBytes_iff`).
-/

set_option autoImplicit false

namespace CallCoupling.Loose

/-! ## 1. Characters from bytes -/

theorem toNat_lt_of_lt {b : UInt8} (k : Nat) (hk : k < 256) (hb : b < (OfNat.ofNat k : UInt8)) : b.toNat < k := by
  have hbyte : (OfNat.ofNat k : UInt8).toNat = k := toNat_ofNat_of_lt hk
  rw [UInt8.lt_iff_toNat_lt, hbyte] at hb
  exact hb

theorem le_toNat_of_not_lt {b : UInt8} (k : Nat) (hk : k < 256) (hb : ¬ b < (OfNat.ofNat k : UInt8)) :
    k ≤ b.toNat := by
  have hbyte : (OfNat.ofNat k : UInt8).toNat = k := toNat_ofNat_of_lt hk
  rw [UInt8.lt_iff_toNat_lt, hbyte] at hb
  exact Nat.not_lt.1 hb

theorem isContinuation_iff {b : UInt8} : isContinuation b = true ↔ 0x80 ≤ b.toNat ∧ b.toNat ≤ 0xBF := by
  rw [isContinuation, Bool.and_eq_true, decide_eq_true_iff, decide_eq_true_iff, UInt8.le_iff_toNat_le,
    UInt8.le_iff_toNat_le]
  rfl

/-- What the limits on a second byte shut out. -/
theorem toNat_of_secondRange {a b : UInt8} (hleast : (secondRange a).1 ≤ b) (hgreatest : b ≤ (secondRange a).2) :
    0x80 ≤ b.toNat ∧ b.toNat ≤ 0xBF ∧ (a.toNat = 0xE0 → 0xA0 ≤ b.toNat) ∧ (a.toNat = 0xED → b.toNat < 0xA0) ∧
      (a.toNat = 0xF0 → 0x90 ≤ b.toNat) ∧ (a.toNat = 0xF4 → b.toNat < 0x90) := by
  simp only [secondRange, beq_iff_eq, ← UInt8.toNat_inj, UInt8.le_iff_toNat_le] at hleast hgreatest
  split_ifs at hleast hgreatest
  all_goals
    simp only [UInt8.reduceToNat] at *
    omega

theorem toNat_ofNat {v : Nat} (hv : v < 0xD800 ∨ 0xDFFF < v ∧ v < 0x110000) : (Char.ofNat v).val.toNat = v := by
  have hvalid : v.isValidChar := hv
  rw [Char.ofNat, dif_pos hvalid]
  rfl

theorem ofNat_eq {n : Nat} {b : UInt8} (h : n = b.toNat) : UInt8.ofNat n = b := by
  rw [h, UInt8.ofNat_toNat]

theorem encode_one {a : UInt8} (ha : a.toNat < 0x80) : String.utf8EncodeChar (Char.ofNat a.toNat) = [a] := by
  rw [String.utf8EncodeChar, toNat_ofNat (by omega), if_pos (by omega), UInt8.ofNat_toNat]

theorem encode_two {a b : UInt8} (ha : 0xC2 ≤ a.toNat ∧ a.toNat < 0xE0) (hb : 0x80 ≤ b.toNat ∧ b.toNat ≤ 0xBF) :
    String.utf8EncodeChar (Char.ofNat ((a.toNat - 0xC0) * 64 + payload b)) = [a, b] := by
  unfold payload
  rw [String.utf8EncodeChar, toNat_ofNat (by omega), if_neg (by omega), if_pos (by omega),
    ofNat_eq (b := a) (by omega), ofNat_eq (b := b) (by omega)]

theorem encode_three {a b c : UInt8} (ha : 0xE0 ≤ a.toNat ∧ a.toNat < 0xF0)
    (hleast : (secondRange a).1 ≤ b) (hgreatest : b ≤ (secondRange a).2) (hc : isContinuation c = true) :
    String.utf8EncodeChar (Char.ofNat (((a.toNat - 0xE0) * 64 + payload b) * 64 + payload c)) = [a, b, c] := by
  have hb := toNat_of_secondRange hleast hgreatest
  rw [isContinuation_iff] at hc
  unfold payload
  rw [String.utf8EncodeChar, toNat_ofNat (by omega), if_neg (by omega), if_neg (by omega), if_pos (by omega),
    ofNat_eq (b := a) (by omega), ofNat_eq (b := b) (by omega), ofNat_eq (b := c) (by omega)]

theorem encode_four {a b c d : UInt8} (ha : 0xF0 ≤ a.toNat ∧ a.toNat < 0xF5)
    (hleast : (secondRange a).1 ≤ b) (hgreatest : b ≤ (secondRange a).2) (hc : isContinuation c = true)
    (hd : isContinuation d = true) :
    String.utf8EncodeChar
        (Char.ofNat ((((a.toNat - 0xF0) * 64 + payload b) * 64 + payload c) * 64 + payload d)) = [a, b, c, d] := by
  have hb := toNat_of_secondRange hleast hgreatest
  rw [isContinuation_iff] at hc hd
  unfold payload
  rw [String.utf8EncodeChar, toNat_ofNat (by omega), if_neg (by omega), if_neg (by omega), if_neg (by omega),
    ofNat_eq (b := a) (by omega), ofNat_eq (b := b) (by omega), ofNat_eq (b := c) (by omega),
    ofNat_eq (b := d) (by omega)]

/-- **A character that is read has exactly the bytes that it was read from.** -/
theorem encode_of_charAt {a : UInt8} {rest : List UInt8} {c : Char} {n : Nat} (h : charAt a rest = some (c, n)) :
    n ≤ rest.length ∧ String.utf8EncodeChar c = a :: rest.take n := by
  unfold charAt at h
  split at h
  · rename_i h80
    cases h
    exact ⟨Nat.zero_le _, encode_one (toNat_lt_of_lt 0x80 (by omega) h80)⟩
  split at h
  · cases h
  rename_i hC2
  have hleast := le_toNat_of_not_lt 0xC2 (by omega) hC2
  split at h
  · rename_i hE0
    split at h
    · split at h
      · rename_i b rest hb
        obtain ⟨rfl, rfl⟩ := Prod.mk.inj (Option.some.inj h)
        have hfirst := toNat_lt_of_lt 0xE0 (by omega) hE0
        refine ⟨by simp, ?_⟩
        rw [encode_two ⟨hleast, hfirst⟩ (isContinuation_iff.1 hb)]
        rfl
      · cases h
    · cases h
  rename_i hE0
  split at h
  · rename_i hF0
    split at h
    · split at h
      · rename_i b d rest hbytes
        obtain ⟨rfl, rfl⟩ := Prod.mk.inj (Option.some.inj h)
        simp only [Bool.and_eq_true, decide_eq_true_eq] at hbytes
        obtain ⟨⟨hb, hb'⟩, hd⟩ := hbytes
        have hfirst := toNat_lt_of_lt 0xF0 (by omega) hF0
        refine ⟨by simp, ?_⟩
        rw [encode_three ⟨le_toNat_of_not_lt 0xE0 (by omega) hE0, hfirst⟩ hb hb' hd]
        rfl
      · cases h
    · cases h
  rename_i hF0
  split at h
  · rename_i hF5
    split at h
    · split at h
      · rename_i b d e rest hbytes
        obtain ⟨rfl, rfl⟩ := Prod.mk.inj (Option.some.inj h)
        simp only [Bool.and_eq_true, decide_eq_true_eq] at hbytes
        obtain ⟨⟨⟨hb, hb'⟩, hd⟩, he⟩ := hbytes
        have hfirst := toNat_lt_of_lt 0xF5 (by omega) hF5
        refine ⟨by simp, ?_⟩
        rw [encode_four ⟨le_toNat_of_not_lt 0xF0 (by omega) hF0, hfirst⟩ hb hb' hd he]
        rfl
      · cases h
    · cases h
  · cases h

theorem toBytes_char (c : Char) (t : Loose) : toBytes (.char c :: t) = String.utf8EncodeChar c ++ t.toBytes :=
  List.flatMap_cons

theorem toBytes_append (t u : Loose) : (t ++ u).toBytes = t.toBytes ++ u.toBytes := List.flatMap_append

/-- **Reading loses no byte.** -/
theorem toBytes_ofBytes (bs : List UInt8) : (ofBytes bs).toBytes = bs := by
  fun_induction ofBytes bs with
  | case1 => rfl
  | case2 a rest c n hchar ih =>
    obtain ⟨-, hbytes⟩ := encode_of_charAt hchar
    rw [toBytes_char, hbytes, ih, List.cons_append, List.take_append_drop]
  | case3 a rest hstray ih =>
    show a :: (ofBytes rest).toBytes = _
    rw [ih]

/-! ## 2. Reading in two parts -/

theorem charAt_append (a : UInt8) (bs : List UInt8) {b : UInt8} (hb : b < 0x80) (rest : List UInt8) :
    charAt a (bs ++ b :: rest) = charAt a bs := by
  have hlt := toNat_lt_of_lt 0x80 (by omega) hb
  have hcontinuation : isContinuation b = false := by
    rw [← Bool.not_eq_true, isContinuation_iff]
    omega
  have hsecond : ¬ ((secondRange a).1 ≤ b ∧ b ≤ (secondRange a).2) := by
    rintro ⟨hleast, hgreatest⟩
    have := toNat_of_secondRange hleast hgreatest
    omega
  -- No character takes `b`, so what is looked at lies before it.
  unfold charAt
  rcases bs with _ | ⟨x, _ | ⟨y, _ | ⟨z, bs⟩⟩⟩
  · cases rest with
    | nil => simp [hcontinuation]
    | cons c rest => cases rest with
      | nil => simp [hcontinuation, hsecond]
      | cons d rest => simp [hcontinuation, hsecond]
  · cases rest with
    | nil => simp [hcontinuation]
    | cons c rest => simp [hcontinuation]
  · simp [hcontinuation]
  · rfl

/-- **Reading can be cut before a byte of ASCII.** -/
theorem ofBytes_append (bs : List UInt8) {b : UInt8} (hb : b < 0x80) (rest : List UInt8) :
    ofBytes (bs ++ b :: rest) = ofBytes bs ++ ofBytes (b :: rest) := by
  fun_induction ofBytes bs with
  | case1 => rfl
  | case2 a bs c n hchar ih =>
    obtain ⟨hlength, -⟩ := encode_of_charAt hchar
    rw [List.cons_append, ofBytes, charAt_append a bs hb, hchar]
    dsimp only
    rw [List.drop_append_of_le_length hlength, ih, List.cons_append]
  | case3 a bs hstray ih =>
    rw [List.cons_append, ofBytes, charAt_append a bs hb, hstray]
    dsimp only
    rw [ih, List.cons_append]

theorem ofString_append (s t : String) : ofString (s ++ t) = ofString s ++ ofString t := by
  rw [ofString, String.toList_append, List.map_append]
  rfl

theorem ofString_inj {s t : String} (h : ofString s = ofString t) : s = t := by
  have hchars := congrArg shownChars h
  rw [shownChars_ofString, shownChars_ofString] at hchars
  exact String.toList_inj.1 hchars

theorem ofBytes_toBytes_append (s : String) (bs : List UInt8) :
    ofBytes ((ofString s).toBytes ++ bs) = ofString s ++ ofBytes bs := by
  unfold ofString
  induction s.toList with
  | nil => rfl
  | cons c cs ih =>
    rw [List.map_cons, toBytes_char, List.append_assoc, ofBytes_encode, ih, List.cons_append]

theorem encode_ascii {c : Char} (hc : c.toNat < 0x80) : String.utf8EncodeChar c = [UInt8.ofNat c.toNat] := by
  have hone : c.val.toNat ≤ 127 := Nat.le_of_lt_succ hc
  rw [String.utf8EncodeChar, if_pos hone]
  rfl

theorem toBytes_ascii {c : Char} (hc : c.toNat < 0x80) (t : Loose) :
    toBytes (.char c :: t) = UInt8.ofNat c.toNat :: t.toBytes := by
  rw [toBytes_char, encode_ascii hc, List.singleton_append]

theorem ofBytes_append_ascii (bs : List UInt8) {c : Char} (hc : c.toNat < 0x80) (rest : List UInt8) :
    ofBytes (bs ++ UInt8.ofNat c.toNat :: rest) = ofBytes bs ++ .char c :: ofBytes rest := by
  rw [ofBytes_append bs (ofNat_lt 0x80 hc (by omega)), ← ofBytes_encode, encode_ascii hc, List.singleton_append]

/-! ## 3. Settled texts -/

/-- The text is what its bytes are read as. -/
def Settled (t : Loose) : Prop := ofBytes t.toBytes = t

theorem settled_ofBytes (bs : List UInt8) : Settled (ofBytes bs) := by
  rw [Settled, toBytes_ofBytes]

theorem settled_ofString (s : String) : Settled (ofString s) := ofBytes_toBytes_ofString s

theorem Settled.ofString_append (s : String) {t : Loose} (ht : Settled t) : Settled (ofString s ++ t) := by
  rw [Settled, toBytes_append, ofBytes_toBytes_append, ht]

/-- **A text goes on with a character of one byte**, and stays settled. -/
theorem Settled.append {t u : Loose} {c : Char} (ht : Settled t) (hu : Settled (.char c :: u))
    (hc : c.toNat < 0x80) : Settled (t ++ .char c :: u) := by
  rw [Settled, toBytes_append, toBytes_ascii hc, ofBytes_append _ (ofNat_lt 0x80 hc (by omega)),
    ← toBytes_ascii hc, ht, hu]

theorem toByteArray_toBytes_ofString (s : String) : (ofString s).toBytes.toByteArray = s.toByteArray := by
  rw [ofString, toBytes, List.flatMap_map]
  exact String.utf8Encode_toList

theorem length_toBytes_ofString (s : String) : (ofString s).toBytes.length = s.utf8ByteSize := by
  rw [← List.size_toByteArray, toByteArray_toBytes_ofString, String.size_toByteArray]

/-- **The bytes are well-formed exactly if none of them is a stray one.** -/
theorem Settled.isValidUTF8_iff {t : Loose} (ht : Settled t) :
    t.toBytes.toByteArray.IsValidUTF8 ↔ t.isText = true := by
  constructor
  · rintro ⟨cs, hcs⟩
    have hbytes : t.toBytes = (ofString (String.ofList cs)).toBytes := by
      have hdata := congrArg (fun bytes => bytes.data.toList) hcs
      rw [← String.toByteArray_ofList, ← toByteArray_toBytes_ofString] at hdata
      simpa only [List.data_toByteArray] using hdata
    rw [← ht, hbytes, ofBytes_toBytes_ofString, ofString]
    simp [isText]
  · intro htext
    rw [← ofString_shown htext, toByteArray_toBytes_ofString]
    exact String.isValidUTF8 _

/-- **A byte of ASCII is there exactly if its character is.** -/
theorem Settled.mem_toBytes_iff {t : Loose} (ht : Settled t) {c : Char} (hc : c.toNat < 0x80) :
    UInt8.ofNat c.toNat ∈ t.toBytes ↔ .char c ∈ t := by
  constructor
  · intro hmem
    obtain ⟨before, after, hsplit⟩ := List.append_of_mem hmem
    rw [← ht, hsplit, ofBytes_append_ascii before hc]
    exact List.mem_append_right _ List.mem_cons_self
  · intro hmem
    obtain ⟨before, after, rfl⟩ := List.append_of_mem hmem
    rw [toBytes_append, toBytes_ascii hc]
    exact List.mem_append_right _ List.mem_cons_self

theorem Settled.toBytes_inj {t u : Loose} (ht : Settled t) (hu : Settled u) : t.toBytes = u.toBytes ↔ t = u := by
  constructor
  · intro hbytes
    rw [← ht, hbytes, hu]
  · rintro rfl
    rfl

/-- **A text ends in a character of one byte exactly if its bytes do.** -/
theorem Settled.getLast?_toBytes {t : Loose} (ht : Settled t) {c : Char} (hc : c.toNat < 0x80) :
    t.toBytes.getLast? = some (UInt8.ofNat c.toNat) ↔ t.getLast? = some (.char c) := by
  constructor
  · intro hlast
    have hbytes := List.dropLast_append_getLast? _ hlast
    rw [← ht, ← hbytes, ofBytes_append_ascii _ hc, ofBytes]
    exact List.getLast?_concat
  · intro hlast
    have hsplit := List.dropLast_append_getLast? _ hlast
    rw [← hsplit, toBytes_append, toBytes_ascii hc]
    exact List.getLast?_concat

/-- **A text starts with another exactly if its bytes do**, if that one ends in a character of one byte. -/
theorem Settled.toBytes_prefix_iff {t u : Loose} {c : Char} (ht : Settled (t ++ [.char c])) (hu : Settled u)
    (hc : c.toNat < 0x80) : (t ++ [Glyph.char c]).toBytes <+: u.toBytes ↔ t ++ [.char c] <+: u := by
  have hbytes : (t ++ [Glyph.char c]).toBytes = t.toBytes ++ [UInt8.ofNat c.toNat] := by
    rw [toBytes_append, toBytes_ascii hc]
    rfl
  constructor
  · rintro ⟨rest, hrest⟩
    rw [Settled, hbytes, ofBytes_append_ascii _ hc, ofBytes] at ht
    have hbefore : ofBytes t.toBytes = t := List.append_inj_left' ht rfl
    rw [← hu, ← hrest, hbytes, List.append_assoc, List.singleton_append, ofBytes_append_ascii _ hc, hbefore]
    exact ⟨ofBytes rest, by simp⟩
  · rintro ⟨rest, rfl⟩
    rw [toBytes_append (t ++ [Glyph.char c])]
    exact List.prefix_append _ _

end CallCoupling.Loose
