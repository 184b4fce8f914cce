import CallCoupling.Text.Loose

/-!
# The text behind the bytes of a document

A byte order mark in front tells how the characters are spelled: as 16-bit units with the low or the high
byte first, or as UTF-8, which is also how a document without a mark is read.

Bytes are decoded in pieces of 512, and a character that a piece cuts in two belongs to the next one.  A
piece that does not spell text is an error only for a reader that gets there, so a `Source` holds the
characters of the pieces before it, the size of each of them, and whether there is such a piece at all.
-/

set_option autoImplicit false

namespace CallCoupling.Yaml

/-- Why a document cannot be read. -/
structure Error where
  detail : String
deriving DecidableEq, Repr, Inhabited

/-- The characters of a document, up to the first piece that does not spell text. -/
structure Source where
  chars : List Char
  /-- The number of characters in each piece. -/
  pieces : List Nat
  /-- Does a piece follow that does not spell text? -/
  damaged : Bool

namespace Source

/-- The number of bytes in a piece. -/
def pieceSize : Nat := 512

/-- May a character stand in a document? -/
def isAllowed (c : Char) : Bool :=
  let n := c.toNat
  n = 9 || n = 10 || n = 13 || (0x20 ≤ n && n ≤ 0x7E) || n = 0x85 || (0xA0 ≤ n && n ≤ 0xD7FF) ||
    (0xE000 ≤ n && n ≤ 0xFFFD) || 0x10000 ≤ n

/-- What stands at the front of some bytes. -/
inductive Front where
  /-- A character and the number of bytes that it takes. -/
  | char (c : Char) (width : Nat)
  /-- The start of a character that needs more bytes. -/
  | unfinished
  | wrong

/-- A character, unless it may not stand in a document. -/
def Front.ofChar (c : Char) (width : Nat) : Front := if isAllowed c then .char c width else .wrong

/-- The number of bytes that a first byte of UTF-8 announces; zero if it can be none. -/
def announced (b : UInt8) : Nat :=
  if b < 0x80 then 1
  else if b < 0xC0 then 0
  else if b < 0xE0 then 2
  else if b < 0xF0 then 3
  else if b < 0xF8 then 4
  else 0

/-- The front of UTF-8, of which `room` bytes may be looked at. -/
def frontUtf8 (room : Nat) : List UInt8 → Front
  | [] => .unfinished
  | a :: rest =>
    let width := announced a
    if room = 0 then .unfinished
    else if width = 0 then .wrong
    else if room < width || (rest.take 3).length + 1 < width then .unfinished
    else
      match Loose.charAt a rest with
      | some (c, _) => Front.ofChar c width
      | none => .wrong

/-- The front of 16-bit units, of which `room` bytes may be looked at. -/
def frontUnits (lowFirst : Bool) (room : Nat) (bytes : List UInt8) : Front :=
  let unit (a b : UInt8) : Nat :=
    if lowFirst then a.toNat + 256 * b.toNat else 256 * a.toNat + b.toNat
  match bytes with
  | a :: b :: rest =>
    let u := unit a b
    if room < 2 then .unfinished
    else if 0xDC00 ≤ u && u ≤ 0xDFFF then .wrong
    else if 0xD800 ≤ u && u ≤ 0xDBFF then
      match rest with
      | c :: d :: _ =>
        let v := unit c d
        if room < 4 then .unfinished
        else if 0xDC00 ≤ v && v ≤ 0xDFFF then
          Front.ofChar (Char.ofNat (0x10000 + (u - 0xD800) * 0x400 + (v - 0xDC00))) 4
        else .wrong
      | _ => .unfinished
    else Front.ofChar (Char.ofNat u) 2
  | _ => .unfinished

/-- Cut bytes into pieces.  `room` bytes are left in the piece at hand, whose characters so far are kept in
reverse; the flag tells whether the piece after the last one is wrong. -/
def cut (front : Nat → List UInt8 → Front) :
    Nat → List Char → List UInt8 → List (List Char) × Bool
  | _, piece, [] => ([piece.reverse], false)
  | room, piece, b :: rest =>
    match front room (b :: rest) with
    | .char c width => cut front (room - width) (c :: piece) (rest.drop (width - 1))
    | .wrong => ([], true)
    | .unfinished =>
      match front pieceSize (b :: rest) with
      | .char c width =>
        let later := cut front (pieceSize - width) [c] (rest.drop (width - 1))
        (piece.reverse :: later.1, later.2)
      | _ => ([piece.reverse], true)
termination_by _ _ bytes => bytes.length
decreasing_by
  all_goals simp only [List.length_drop, List.length_cons]; omega

/-- The source that pieces make. -/
def ofPieces (found : List (List Char) × Bool) : Source :=
  { chars := found.1.flatten, pieces := found.1.map List.length, damaged := found.2 }

/-- The text of a document. -/
def ofBytes (bytes : List UInt8) : Source :=
  ofPieces <|
    match bytes with
    | 0xFF :: 0xFE :: rest => cut (frontUnits true) (pieceSize - 2) [] rest
    | 0xFE :: 0xFF :: rest => cut (frontUnits false) (pieceSize - 2) [] rest
    | 0xEF :: 0xBB :: 0xBF :: rest => cut frontUtf8 (pieceSize - 3) [] rest
    | _ => cut frontUtf8 pieceSize [] bytes

end Source

end CallCoupling.Yaml
