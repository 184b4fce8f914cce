import CallCoupling.Yaml.Source

/-!
# Walking through a YAML text

A cursor is the rest of a text with the place of its first character.  Lines end at a line feed, a
carriage return (alone or before a line feed), the next-line character or one of the two Unicode line
separators.

The text comes in pieces.  A reader says how many characters it looks at (`Cursor.need`), and pieces are
loaded until that many are at hand.  A piece that does not spell text makes the cursor fail when it is
asked for and not before.
-/

set_option autoImplicit false

namespace CallCoupling.Yaml

/-! ## Classes of characters -/

/-- The byte order mark. -/
def isMark (c : Char) : Bool := c.toNat = 0xFEFF

/-- A space or a tab. -/
def isBlank (c : Char) : Bool := c = ' ' || c = '\t'

/-- A character that ends a line. -/
def isBreak (c : Char) : Bool :=
  c = '\n' || c = '\r' || c.toNat = 0x85 || c.toNat = 0x2028 || c.toNat = 0x2029

/-- A letter, a digit, an underscore or a hyphen. -/
def isWord (c : Char) : Bool := c.isAlphanum || c = '_' || c = '-'

/-- The rest of a text and the place where it starts. -/
structure Cursor where
  rest : List Char
  index : Nat := 0
  line : Nat := 0
  column : Nat := 0
  /-- How many characters the whole text has. -/
  size : Nat := 0
  /-- How many characters are loaded, the end counted as often as it was looked at. -/
  loaded : Nat := 0
  /-- The sizes of the pieces that are not loaded yet. -/
  pieces : List Nat := []
  /-- Is there a piece behind them that does not spell text? -/
  damaged : Bool := false
  /-- Has that piece been asked for? -/
  failed : Bool := false
  /-- Did a byte order mark stand at the cursor when a piece was last asked for? -/
  marked : Bool := false
deriving Inhabited

namespace Cursor

/-- The start of a text. -/
def start (s : Source) : Cursor :=
  { rest := s.chars, size := s.chars.length, pieces := s.pieces, damaged := s.damaged }

/-- How many characters are left. -/
def left (c : Cursor) : Nat := c.size - c.index

/-- The first character. -/
def peek (c : Cursor) : Option Char := c.rest.head?

/-- The character after `n` others. -/
def peekAt (c : Cursor) (n : Nat) : Option Char := c.rest[n]?

/-- Is the text at its end? -/
def atEnd (c : Cursor) : Bool := c.rest.isEmpty

/-- Does a character satisfy a test?  The end does not. -/
def test (p : Char → Bool) : Option Char → Bool
  | some x => p x
  | none => false

/-- Is a character a blank, a line end or the end of the text? -/
def blankOrEnd : Option Char → Bool
  | some x => isBlank x || isBreak x
  | none => true

/-- Is a character a line end or the end of the text? -/
def breakOrEnd : Option Char → Bool
  | some x => isBreak x
  | none => true

/-! ## Loading -/

/-- Load pieces until `goal` characters are there or no piece is left. -/
def load (goal : Nat) : Nat → List Nat → Nat × List Nat
  | loaded, [] => (loaded, [])
  | loaded, piece :: pieces =>
    if goal ≤ loaded then (loaded, piece :: pieces) else load goal (loaded + piece) pieces

/-- Have the next `n` characters at hand. -/
def need (n : Nat) (c : Cursor) : Cursor :=
  if c.index + n ≤ c.loaded then c
  else
    let (loaded, pieces) := load (c.index + n) c.loaded c.pieces
    let c := { c with loaded, pieces, marked := test isMark c.peek }
    if c.index + n ≤ loaded then c
    else if c.damaged then { c with failed := true }
    else { c with loaded := loaded + 1 }

/-! ## Moving on -/

/-- Pass one character, which counts as a column. -/
def skip (c : Cursor) : Cursor :=
  match c.rest with
  | [] => c
  | _ :: rest => { c with rest, index := c.index + 1, column := c.column + 1 }

/-- Pass `n` characters that do not end a line. -/
def skipMany (c : Cursor) : Nat → Cursor
  | 0 => c
  | n + 1 => c.skip.skipMany n

/-- Pass a line end. -/
def skipLine (c : Cursor) : Cursor :=
  match c.rest with
  | '\r' :: '\n' :: rest => { c with rest, index := c.index + 2, line := c.line + 1, column := 0 }
  | x :: rest =>
    if isBreak x then { c with rest, index := c.index + 1, line := c.line + 1, column := 0 } else c
  | [] => c

/-- Pass one character and look at the next. -/
def next (c : Cursor) : Cursor := c.skip.need 1

/-- Pass a line end, of which both characters are looked at. -/
def nextLine (c : Cursor) : Cursor := (c.need 2).skipLine

/-- The line end as it counts in a scalar: the two separators stay and all else is a line feed. -/
def lineText (c : Cursor) : List Char :=
  match c.rest with
  | x :: _ => if x.toNat = 0x2028 || x.toNat = 0x2029 then [x] else ['\n']
  | [] => []

/-- Pass the characters of a list as long as they satisfy a test; those passed are kept in reverse. -/
def readFrom (p : Char → Bool) : List Char → List Char → Cursor → List Char × Cursor
  | [], done, c => (done, c)
  | x :: rest, done, c => if p x then readFrom p rest (x :: done) c.next else (done, c)

/-- Read characters as long as they satisfy a test. -/
def readWhile (p : Char → Bool) (c : Cursor) : List Char × Cursor :=
  let (done, c) := readFrom p c.rest [] (c.need 1)
  (done.reverse, c)

/-- Pass characters as long as they satisfy a test. -/
def skipWhile (p : Char → Bool) (c : Cursor) : Cursor := (readFrom p c.rest [] (c.need 1)).2

/-- Does a line start with three equal marks that stand alone? -/
def atMarker (mark : Char) (c : Cursor) : Bool :=
  c.column = 0 && c.peek = some mark && c.peekAt 1 = some mark && c.peekAt 2 = some mark &&
    blankOrEnd (c.peekAt 3)

/-- Does a line start with a marker between documents? -/
def atDocumentMarker (c : Cursor) : Bool := c.atMarker '-' || c.atMarker '.'

/-! ## Comments -/

/-- How far one looks for a comment. -/
def commentReach : Nat := 512

/-- Pass a comment, up to the end of its line. -/
def skipComment (c : Cursor) : Cursor := c.skipWhile fun x => !isBreak x

/-- Pass the comment on the rest of a line, if there is one and blanks only stand in front of it. -/
def skipLineComment (c : Cursor) : Cursor :=
  let blanks := ((c.rest.take commentReach).takeWhile isBlank).length
  if blanks = commentReach then c.need commentReach
  else
    let c := c.need (blanks + 1)
    if c.peekAt blanks = some '#' then (c.skipWhile isBlank).skipComment else c

/-- The distance to a comment behind blanks and line ends, and how many characters are looked at for it.
Among these line ends are only the line feed and the carriage return. -/
def commentBehind : Nat → Nat → List Char → Option Nat × Nat
  | 0, n, _ => (none, n)
  | _ + 1, n, [] => (none, n + 1)
  | reach + 1, n, x :: rest =>
    if x = '#' then (some n, n + 1)
    else if isBlank x || x = '\n' || x = '\r' then commentBehind reach (n + 1) rest
    else if isBreak x then (none, n + 1 + min reach 1)
    else (none, n + 1)

/-- Pass blanks and line ends up to a place. -/
def skipGap (goal : Nat) : Nat → Cursor → Cursor
  | 0, c => c
  | fuel + 1, c =>
    if goal ≤ c.index then c
    else
      let c := c.need 1
      skipGap goal fuel (if test isBreak c.peek then c.nextLine else c.skip)

/-- Pass a comment, and those on the lines below it that blanks and line ends only part from it.  A tab may
stand in front of them. -/
def skipComments : Nat → Cursor → Cursor
  | 0, c => c
  | fuel + 1, c =>
    let c := c.skipComment
    match c.rest with
    | [] => c.need 2
    | x :: rest =>
      if x = '\n' || x = '\r' then
        let (distance, seen) := commentBehind (commentReach - 1) 1 rest
        let c := c.need seen
        match distance with
        | some n => skipComments fuel (skipGap (c.index + n) n c)
        | none => c
      else c.need 2

end Cursor

end CallCoupling.Yaml
