import CallCoupling.Text.Letters
import CallCoupling.Text.Terminal.Sequence

/-!
# Wrapping

A text is wrapped to a number of columns at its blanks and behind its hyphens; a word that is too long is
broken.  `wrap` gives the wrapped text.  A style or a link that is open at the end of a line ends there and
is set again on the next line.

`lineCount` estimates the number of lines beforehand.  It counts a control as a column and a blank past
ASCII as its bytes, so it may say more than `wrap` needs.
-/

set_option autoImplicit false

namespace CallCoupling.Terminal

/-! ## Wrapped text -/

/-- A text that is being wrapped.  Bytes are kept in reverse. -/
structure Wrapping where
  /-- What is written. -/
  out : List UInt8 := []
  /-- The columns written on the line. -/
  column : Nat := 0
  /-- The blanks behind what is written. -/
  blanks : Nat := 0
  /-- The word behind the blanks. -/
  word : List UInt8 := []
  /-- The columns of the word. -/
  wordWidth : Nat := 0
  /-- The style and the link at this place of the text. -/
  style : Style := {}
  link : Link := {}
  /-- The style and the link of what is written. -/
  writtenStyle : Style := {}
  writtenLink : Link := {}

namespace Wrapping

/-- Write bytes. -/
def put (w : Wrapping) (bytes : List UInt8) : Wrapping := { w with out := bytes.reverse ++ w.out }

/-- Write the blanks. -/
def putBlanks (w : Wrapping) : Wrapping :=
  { w with out := List.replicate w.blanks 0x20 ++ w.out, column := w.column + w.blanks, blanks := 0 }

/-- Write the blanks and the word, unless there is no word. -/
def putWord (w : Wrapping) : Wrapping :=
  if w.word.isEmpty then w
  else
    let w := { w with writtenLink := w.link, writtenStyle := w.style }.putBlanks
    { w with out := w.word ++ w.out, column := w.column + w.wordWidth, word := [], wordWidth := 0 }

/-- Drop the blanks at the end of a line that they do not fit on, and write them otherwise. -/
def putLastBlanks (limit : Nat) (w : Wrapping) : Wrapping :=
  if w.wordWidth ≠ 0 then w
  else if limit < w.column + w.blanks then { w with column := 0, blanks := 0 }
  else { w with out := List.replicate w.blanks 0x20 ++ w.out, blanks := 0 }

/-- The bytes of a text. -/
def bytesOf (s : String) : List UInt8 := (Loose.ofString s).toBytes

/-- Begin a new line. -/
def breakLine (w : Wrapping) : Wrapping :=
  let styled := w.writtenStyle ≠ {}
  let linked := w.writtenLink ≠ {}
  let w := if styled then w.put (bytesOf Style.reset) else w
  let w := if linked then w.put (Link.sequence {}) else w
  let w := w.put [0x0A]
  let w := if linked then w.put w.writtenLink.sequence else w
  let w := if styled then w.put (bytesOf w.writtenStyle.sequence) else w
  { w with column := 0, blanks := 0 }

/-- Add bytes of some columns to the word. -/
def addToWord (limit : Nat) (bytes : List UInt8) (width : Nat) (w : Wrapping) : Wrapping :=
  let w := if limit < w.wordWidth + width then w.putWord else w
  let w := { w with word := bytes.reverse ++ w.word, wordWidth := w.wordWidth + width }
  if limit < w.column + w.wordWidth + w.blanks then w.breakLine else w

/-- Take bytes without columns. -/
def addSilent (limit : Nat) (bytes : List UInt8) (command : Command) (w : Wrapping) : Wrapping :=
  if bytes = [0x0A] then (w.putLastBlanks limit).putWord.breakLine
  else
    let w := match command with
      | .none => w
      | .style ps => { w with style := w.style.read ps }
      | .link link => { w with link }
    { w with word := bytes.reverse ++ w.word }

/-- Take one sequence. -/
def add (limit : Nat) (bytes : List UInt8) (s : Sequence) (w : Wrapping) : Wrapping :=
  if s.width = 0 then w.addSilent limit bytes s.command
  else if bytes = [0x20] && w.style.leavesBlanks then
    let w := w.putWord
    { w with blanks := w.blanks + 1 }
  else if bytes = [0x2D] then
    let w := w.putBlanks
    if w.column + w.wordWidth + 1 ≤ limit then
      let w := w.putWord.put bytes
      { w with column := w.column + 1 }
    else w.addToWord limit bytes 1
  else w.addToWord limit bytes s.width

/-- Take a text; every sequence has at least one byte. -/
def addAll (limit : Nat) (text : List UInt8) (w : Wrapping) : Wrapping :=
  match text with
  | [] => w
  | b :: rest =>
    let s := Sequence.next (b :: rest)
    addAll limit (rest.drop (s.size - 1)) (w.add limit ((b :: rest).take (max 1 s.size)) s)
termination_by text.length
decreasing_by simp only [List.length_drop, List.length_cons]; omega

/-- The wrapped text. -/
def finish (limit : Nat) (w : Wrapping) : List UInt8 :=
  let w := (w.putLastBlanks limit).putWord
  let w := if w.writtenLink ≠ {} then w.put (Link.sequence {}) else w
  let w := if w.writtenStyle ≠ {} then w.put (bytesOf Style.reset) else w
  w.out.reverse

end Wrapping

/-- A text, wrapped to `limit` columns; no limit leaves it as it is. -/
def wrap (limit : Nat) (text : List UInt8) : List UInt8 :=
  if limit = 0 then text else ((({} : Wrapping).addAll limit text).finish limit)

/-! ## The number of lines -/

/-- A line that is being measured. -/
structure Measure where
  /-- The lines that are full. -/
  full : Nat := 0
  column : Nat := 0
  blanks : Nat := 0
  wordWidth : Nat := 0
  /-- Is there a word, perhaps without columns? -/
  hasWord : Bool := false
deriving DecidableEq, Repr

namespace Measure

/-- Take up the blanks. -/
def putBlanks (m : Measure) : Measure := { m with column := m.column + m.blanks, blanks := 0 }

/-- Take up the blanks and the word. -/
def putWord (m : Measure) : Measure :=
  if m.hasWord then
    { m with column := m.column + m.blanks + m.wordWidth, blanks := 0, wordWidth := 0, hasWord := false }
  else m

/-- Begin a new line. -/
def breakLine (m : Measure) : Measure := { m with full := m.full + 1, column := 0, blanks := 0 }

/-- Begin a new line if what there is does not fit. -/
def breakIfFull (limit : Nat) (m : Measure) : Measure :=
  if limit < m.column + m.wordWidth + m.blanks then m.breakLine else m

/-- A blank that counts as so many columns. -/
def addBlank (columns : Nat) (m : Measure) : Measure :=
  let m := m.putWord
  { m with blanks := m.blanks + columns }

/-- A hyphen. -/
def addHyphen (limit : Nat) (m : Measure) : Measure :=
  let m := m.putBlanks
  if limit ≤ m.column + m.wordWidth then { m with wordWidth := m.wordWidth + 1, hasWord := true }
  else
    let m := m.putWord
    { m with column := m.column + 1 }

/-- A byte that is shown, or a control. -/
def addByte (limit : Nat) (m : Measure) : Measure :=
  let m := if m.column = limit then m.breakLine else m
  let m := { m with wordWidth := m.wordWidth + 1, hasWord := true }
  (if m.wordWidth = limit then m.putWord else m).breakIfFull limit

/-- A cluster of so many columns. -/
def addCluster (limit width : Nat) (m : Measure) : Measure :=
  let m := if limit < m.wordWidth + width then m.putWord else m
  { m with wordWidth := m.wordWidth + width, hasWord := true }.breakIfFull limit

/-- The blank past ASCII at the front of bytes, if there is one that breaks lines. -/
def wideBlank? (b : UInt8) (rest : List UInt8) : Option Char :=
  match Loose.charAt b rest with
  | some (c, _) => if Text.isBlank c && c.toNat ≠ 0xA0 then some c else none
  | none => none

/-- A byte that is shown, a control or a hyphen. -/
def addPlain (limit : Nat) (b : UInt8) (m : Measure) : Measure :=
  if Text.isBlank (Char.ofNat b.toNat) then m.addBlank (Char.ofNat b.toNat).utf8Size
  else if b = 0x2D then m.addHyphen limit
  else m.addByte limit

/-- Take the bytes of a line. -/
def addAll (limit : Nat) (s : State) (bytes : List UInt8) (m : Measure) : Measure :=
  match bytes with
  | [] => m
  | b :: rest =>
    match transition s b with
    | (s, .character) =>
      let (size, width) := Text.Cluster.first (b :: rest)
      addAll limit s (rest.drop (size - 1))
        (match wideBlank? b rest with
          | some c => m.addBlank c.utf8Size
          | none => m.addCluster limit width)
    | (s, .print) => addAll limit s rest (m.addPlain limit b)
    | (s, .execute) => addAll limit s rest (m.addPlain limit b)
    | (s, .silent) => addAll limit s rest { m with hasWord := true }
termination_by bytes.length
decreasing_by all_goals simp only [List.length_drop, List.length_cons]; omega

end Measure

/-- The number of lines that one line is expected to take in so many columns. -/
def lineCount (limit : Nat) (line : List UInt8) : Nat :=
  if limit = 0 then 1 else (({} : Measure).addAll limit .ground line).full + 1

end CallCoupling.Terminal
