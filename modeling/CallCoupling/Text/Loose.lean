/-!
# Text read from bytes

Bytes from a file or a request need not spell text.  `Loose` keeps what they do spell: a list of
glyphs, each a character or a byte that belongs to no character.  Reading never fails; a reader that
insists on text asks `isText`, one that shows it writes the replacement character for a stray byte.
-/

set_option autoImplicit false

namespace CallCoupling

/-- One unit of text read from bytes: a character, or a byte that belongs to none. -/
inductive Glyph where
  | char (c : Char)
  | stray (b : UInt8)
deriving DecidableEq, Repr, Inhabited

/-- Text that may hold stray bytes. -/
abbrev Loose := List Glyph

instance : LawfulBEq Loose := inferInstance

namespace Loose

/-- The replacement character shown for a stray byte. -/
def replacement : Char := Char.ofNat 0xFFFD

/-- Is `b` a byte that continues a character? -/
def isContinuation (b : UInt8) : Bool := 0x80 ≤ b && b ≤ 0xBF

/-- The low six bits of a continuation byte. -/
def payload (b : UInt8) : Nat := b.toNat - 0x80

/-- The least and greatest second byte that a first byte of a three or four byte character allows;
the limits shut out longer spellings than needed, surrogates and numbers past the last character. -/
def secondRange (a : UInt8) : UInt8 × UInt8 :=
  if a == 0xE0 then (0xA0, 0xBF)
  else if a == 0xED then (0x80, 0x9F)
  else if a == 0xF0 then (0x90, 0xBF)
  else if a == 0xF4 then (0x80, 0x8F)
  else (0x80, 0xBF)

/-- The character that starts with byte `a` and goes on in `rest`, with the number of bytes of
`rest` that it takes. -/
def charAt (a : UInt8) (rest : List UInt8) : Option (Char × Nat) :=
  if a < 0x80 then some (Char.ofNat a.toNat, 0)
  else if a < 0xC2 then none
  else if a < 0xE0 then
    match rest with
    | b :: _ =>
      if isContinuation b then some (Char.ofNat ((a.toNat - 0xC0) * 64 + payload b), 1) else none
    | [] => none
  else if a < 0xF0 then
    match rest with
    | b :: c :: _ =>
      if (secondRange a).1 ≤ b && b ≤ (secondRange a).2 && isContinuation c then
        some (Char.ofNat (((a.toNat - 0xE0) * 64 + payload b) * 64 + payload c), 2)
      else none
    | _ => none
  else if a < 0xF5 then
    match rest with
    | b :: c :: d :: _ =>
      if (secondRange a).1 ≤ b && b ≤ (secondRange a).2 && isContinuation c && isContinuation d then
        some (Char.ofNat ((((a.toNat - 0xF0) * 64 + payload b) * 64 + payload c) * 64 + payload d), 3)
      else none
    | _ => none
  else none

/-- Read bytes; a byte that starts no character is kept as a stray byte and reading goes on after
it. -/
def ofBytes : List UInt8 → Loose
  | [] => []
  | a :: rest =>
    match charAt a rest with
    | some (c, n) => .char c :: ofBytes (rest.drop n)
    | none => .stray a :: ofBytes rest
termination_by bs => bs.length
decreasing_by
  · simp only [List.length_drop, List.length_cons]; omega
  · simp

/-- Proper text as loose text. -/
def ofString (s : String) : Loose := s.toList.map .char

/-- Proper text may stand wherever loose text may. -/
instance : Coe String Loose := ⟨ofString⟩

/-- Pieces of text one after the other. -/
def join (ts : List Loose) : Loose := ts.flatten

/-- The bytes of loose text. -/
def toBytes (t : Loose) : List UInt8 :=
  t.flatMap fun
    | .char c => String.utf8EncodeChar c
    | .stray b => [b]

/-- Is there no stray byte? -/
def isText (t : Loose) : Bool :=
  t.all fun
    | .char _ => true
    | .stray _ => false

/-- The characters, with the replacement character for each stray byte. -/
def shownChars (t : Loose) : List Char :=
  t.map fun
    | .char c => c
    | .stray _ => replacement

/-- The text as it is shown. -/
def shown (t : Loose) : String := String.ofList t.shownChars

/-- The text itself, if there is no stray byte. -/
def text? (t : Loose) : Option String :=
  if t.isText then some t.shown else none

/-- The first `n` bytes of a text: a character cut in two leaves its first bytes as stray bytes. -/
def cut : Nat → List Char → Loose
  | _, [] => []
  | n, c :: cs =>
    if c.utf8Size ≤ n then .char c :: cut (n - c.utf8Size) cs
    else ((String.utf8EncodeChar c).take n).map .stray

end Loose

end CallCoupling
