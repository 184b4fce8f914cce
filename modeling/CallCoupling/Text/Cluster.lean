import CallCoupling.Text.Cluster.Ranges
import CallCoupling.Text.Loose

/-!
# Clusters

A reader sees some characters as one: a letter with its marks, a syllable of several signs, a flag of two
halves, pictographs with a joiner between them.  `Cluster.step` says between which kinds of characters a
cluster ends, and `Cluster.first` takes the first cluster off some bytes.  A byte that belongs to no
character counts as a character of its own.
-/

set_option autoImplicit false

namespace CallCoupling.Text.Cluster

/-- What a character is to the clusters around it. -/
inductive Kind where
  | other
  | control
  /-- A mark that takes no column. -/
  | extend
  /-- The zero-width joiner. -/
  | joiner
  /-- A mark that takes a column. -/
  | spacing
  /-- A mark that belongs to what follows. -/
  | prepend
  /-- A leading consonant of a syllable. -/
  | leading
  | vowel
  /-- A trailing consonant of a syllable. -/
  | trailing
  /-- A whole syllable without a trailing consonant. -/
  | openSyllable
  /-- A whole syllable with a trailing consonant. -/
  | closedSyllable
  | pictograph
  /-- A half of a flag. -/
  | regional
deriving DecidableEq, Repr

/-- The kind of a character. -/
def Kind.ofChar (c : Char) : Kind :=
  let n := c.toNat
  let between (a b : Nat) : Bool := a ≤ n && n ≤ b
  if n < 0x7F then (if n < 0x20 then .control else .other)
  else if n = 0x7F || within controlRuns c then .control
  else if n = 0x200D then .joiner
  else if between 0x1100 0x115F || between 0xA960 0xA97C then .leading
  else if between 0x1160 0x11A7 || between 0xD7B0 0xD7C6 then .vowel
  else if between 0x11A8 0x11FF || between 0xD7CB 0xD7FB then .trailing
  else if between 0xAC00 0xD7A3 then (if (n - 0xAC00) % 28 = 0 then .openSyllable else .closedSyllable)
  else if between 0x1F1E6 0x1F1FF then .regional
  else if within extendRuns c then .extend
  else if within spacingRuns c then .spacing
  else if within prependRuns c then .prepend
  else if within pictographRuns c then .pictograph
  else .other

/-- The kind of a glyph. -/
def Kind.ofGlyph : Glyph → Kind
  | .char c => .ofChar c
  | .stray _ => .other

/-- What the characters so far allow to follow in the same cluster. -/
inductive Place where
  /-- Marks only. -/
  | any
  /-- Nothing. -/
  | control
  /-- Any sign of a syllable but a trailing consonant. -/
  | leading
  /-- A vowel or a trailing consonant. -/
  | vowel
  /-- A trailing consonant. -/
  | trailing
  /-- Any character but a control. -/
  | prepended
  /-- A joiner. -/
  | pictograph
  /-- A pictograph, after a joiner. -/
  | joined
  /-- The other half of a flag. -/
  | oddFlag
  /-- Marks only, after a whole flag. -/
  | evenFlag
deriving DecidableEq, Repr

/-- The place after a character that nothing special is in front of, and whether a cluster ends in front
of it. -/
def entered : Kind → Place × Bool
  | .other => (.any, true)
  | .control => (.control, true)
  | .extend | .joiner | .spacing => (.any, false)
  | .prepend => (.prepended, true)
  | .leading => (.leading, true)
  | .vowel | .openSyllable => (.vowel, true)
  | .trailing | .closedSyllable => (.trailing, true)
  | .pictograph => (.pictograph, true)
  | .regional => (.oddFlag, true)

/-- The place after one more character, and whether a cluster ends in front of it. -/
def step : Place → Kind → Place × Bool
  | .leading, .leading => (.leading, false)
  | .leading, .vowel => (.vowel, false)
  | .leading, .openSyllable => (.vowel, false)
  | .leading, .closedSyllable => (.trailing, false)
  | .vowel, .vowel => (.vowel, false)
  | .vowel, .trailing => (.trailing, false)
  | .trailing, .trailing => (.trailing, false)
  | .pictograph, .extend => (.pictograph, false)
  | .pictograph, .joiner => (.joined, false)
  | .joined, .pictograph => (.pictograph, false)
  | .oddFlag, .regional => (.evenFlag, false)
  | .control, k => ((entered k).1, true)
  | .prepended, k => ((entered k).1, k = .control)
  | _, k => entered k

/-- The columns that a glyph of some kind takes when it stands alone. -/
def glyphWidth (g : Glyph) (k : Kind) : Nat :=
  match k, g with
  | .control, _ | .extend, _ | .joiner, _ => 0
  | .regional, _ => 2
  | .pictograph, .char c => if within emojiRuns c then 2 else 1
  | _, .char c =>
    if c.toNat = 0x2E3A then 3
    else if c.toNat = 0x2E3B then 4
    else if c.toNat < 0x80 then 1
    else if within wideRuns c then 2
    else 1
  | _, .stray _ => 1

/-- The columns of a cluster that begins with a glyph of kind `head`, after one more glyph: a selector
says how a pictograph is shown, and flags and syllables take no more than their beginning. -/
def grown (head : Kind) (width : Nat) (g : Glyph) (k : Kind) : Nat :=
  match head with
  | .pictograph =>
    if g = .char (Char.ofNat 0xFE0E) then 1 else if g = .char (Char.ofNat 0xFE0F) then 2 else width
  | .regional | .leading => width
  | _ => width + glyphWidth g k

/-- The glyph that starts with byte `a` and goes on in `rest`, with the number of bytes of `rest` that it
takes. -/
def glyphAt (a : UInt8) (rest : List UInt8) : Glyph × Nat :=
  match Loose.charAt a rest with
  | some (c, n) => (.char c, n)
  | none => (.stray a, 0)

/-- Lengthen a cluster of `size` bytes and `width` columns by what follows it. -/
def lengthen (head : Kind) (p : Place) (size width : Nat) (bytes : List UInt8) : Nat × Nat :=
  match bytes with
  | [] => (size, width)
  | a :: rest =>
    let (g, n) := glyphAt a rest
    let k := Kind.ofGlyph g
    match step p k with
    | (_, true) => (size, width)
    | (p, false) => lengthen head p (size + n + 1) (grown head width g k) (rest.drop n)
termination_by bytes.length
decreasing_by simp only [List.length_drop, List.length_cons]; omega

/-- The number of bytes and of columns of the first cluster. -/
def first : List UInt8 → Nat × Nat
  | [] => (0, 0)
  | a :: rest =>
    let (g, n) := glyphAt a rest
    let k := Kind.ofGlyph g
    lengthen k (entered k).1 (n + 1) (glyphWidth g k) (rest.drop n)

end CallCoupling.Text.Cluster
