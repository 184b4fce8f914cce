import CallCoupling.Number.Integer
import CallCoupling.Yaml.Cursor

/-!
# Scalars

A scalar is written plain, between quotes, or as a block of indented lines.  Plain and quoted scalars
fold: blanks around a line end vanish, one line end becomes a space, and of several the first vanishes.
`Gap` is what stands between two words of a scalar, and `Gap.text` what it counts for.

Each loop takes fuel; the callers give it the number of characters left, and every turn passes at
least one of them.
-/

set_option autoImplicit false

namespace CallCoupling.Yaml

/-! ## Folding -/

/-- Blanks and line ends between two words. -/
structure Gap where
  /-- The blanks, as long as there is no line end. -/
  blanks : List Char := []
  /-- Was there a line end? -/
  broken : Bool := false
  /-- The first line end. -/
  first : List Char := []
  /-- The further line ends. -/
  more : List Char := []

namespace Gap

/-- What a gap counts for. -/
def text (g : Gap) : List Char :=
  if g.broken then
    if g.first.head? = some '\n' then (if g.more.isEmpty then [' '] else g.more)
    else g.first ++ g.more
  else g.blanks

/-- Pass a gap; a tab in front of the given column of a new line is an error. -/
def scan (tabLimit : Int) : Nat → Gap → Cursor → Except Error (Gap × Cursor)
  | 0, g, c => .ok (g, c)
  | fuel + 1, g, c =>
    match c.peek with
    | none => .ok (g, c)
    | some x =>
      if isBlank x then
        if g.broken && (c.column : Int) < tabLimit && x = '\t' then
          .error ⟨"found a tab character that violates indentation"⟩
        else if g.broken then scan tabLimit fuel g c.next
        else scan tabLimit fuel { g with blanks := g.blanks ++ [x] } c.next
      else if isBreak x then
        let after := c.nextLine.need 1
        if g.broken then scan tabLimit fuel { g with more := g.more ++ c.lineText } after
        else scan tabLimit fuel { broken := true, first := c.lineText } after
      else .ok (g, c)

end Gap

/-! ## Quoted scalars -/

/-- The character that an escape letter stands for. -/
def escapeLetter? : Char → Option Nat
  | '0' => some 0
  | 'a' => some 7
  | 'b' => some 8
  | 't' | '\t' => some 9
  | 'n' => some 10
  | 'v' => some 11
  | 'f' => some 12
  | 'r' => some 13
  | 'e' => some 0x1B
  | ' ' => some 0x20
  | '"' => some 0x22
  | '\'' => some 0x27
  | '\\' => some 0x5C
  | 'N' => some 0x85
  | '_' => some 0xA0
  | 'L' => some 0x2028
  | 'P' => some 0x2029
  | _ => none

/-- The number of hexadecimal digits after an escape letter. -/
def escapeWidth? : Char → Option Nat
  | 'x' => some 2
  | 'u' => some 4
  | 'U' => some 8
  | _ => none

/-- The number that hexadecimal digits spell. -/
def hexNumber? : List Char → Nat → Option Nat
  | [], n => some n
  | c :: cs, n =>
    match (Integer.digitValue? c).filter (· < 16) with
    | some d => hexNumber? cs (n * 16 + d)
    | none => none

/-- The character of an escape that starts at the cursor, and the cursor after it. -/
def escapeAt (c : Cursor) : Except Error (Char × Cursor) :=
  match c.peekAt 1 with
  | none => .error ⟨"found unknown escape character"⟩
  | some letter =>
    match escapeLetter? letter, escapeWidth? letter with
    | some n, _ => .ok (Char.ofNat n, c.skipMany 2)
    | none, some width =>
      let digits := (c.rest.drop 2).take width
      let c := (c.skipMany 2).need width
      match (if digits.length = width then hexNumber? digits 0 else none) with
      | none => .error ⟨"did not find expected hexdecimal number"⟩
      | some n =>
        if (0xD800 ≤ n && n ≤ 0xDFFF) || n > 0x10FFFF then
          .error ⟨"found invalid Unicode character escape code"⟩
        else .ok (Char.ofNat n, c.skipMany width)
    | none, none => .error ⟨"found unknown escape character"⟩

/-- Read a word of a quoted scalar, up to a gap, the closing quote or an escaped line end; the flag
tells whether a line end was escaped.  The text is kept in reverse. -/
def quotedWord (quote : Char) : Nat → List Char → Cursor → Except Error (List Char × Cursor × Bool)
  | 0, acc, c => .ok (acc, c, false)
  | fuel + 1, acc, c =>
    match c.peek with
    | none => .ok (acc, c, false)
    | some x =>
      if isBlank x || isBreak x then .ok (acc, c, false)
      else if quote = '\'' && x = '\'' && c.peekAt 1 = some '\'' then
        quotedWord quote fuel ('\'' :: acc) ((c.skipMany 2).need 2)
      else if x = quote then .ok (acc, c, false)
      else if quote = '"' && x = '\\' then
        if Cursor.test isBreak (c.peekAt 1) then .ok (acc, (c.need 3).skip.skipLine, true)
        else
          match escapeAt c with
          | .ok (y, c) => quotedWord quote fuel (y :: acc) (c.need 2)
          | .error e => .error e
      else quotedWord quote fuel (x :: acc) (c.skip.need 2)

/-- Read a quoted scalar after its opening quote. -/
def quotedFrom (quote : Char) : Nat → List Char → Cursor → Except Error (List Char × Cursor)
  | 0, _, _ => .error ⟨"found unexpected end of stream"⟩
  | fuel + 1, acc, c =>
    let c := c.need 4
    if c.atDocumentMarker then .error ⟨"found unexpected document indicator"⟩
    else if c.atEnd then .error ⟨"found unexpected end of stream"⟩
    else
      match quotedWord quote (c.left + 1) acc c with
      | .error e => .error e
      | .ok (acc, c, broken) =>
        let c := c.need 1
        if c.peek = some quote then .ok (acc.reverse, c.skip)
        else
          match Gap.scan 0 (c.left + 1) { broken } c with
          | .error e => .error e
          | .ok (gap, c) => quotedFrom quote fuel (gap.text.reverse ++ acc) c

/-- Read a quoted scalar at its opening quote. -/
def scanQuoted (quote : Char) (c : Cursor) : Except Error (List Char × Cursor) :=
  quotedFrom quote (c.left + 1) [] c.skip

/-! ## Plain scalars -/

/-- Does a plain scalar end before this character? -/
def endsPlain (flow : Bool) (x : Char) (next : Option Char) : Bool :=
  (x = ':' && Cursor.blankOrEnd next) ||
    (flow && (x = ',' || x = '?' || x = '[' || x = ']' || x.toNat = 0x7B || x.toNat = 0x7D))

/-- Read a word of a plain scalar from the characters at the cursor; it is kept in reverse. -/
def plainWord (flow : Bool) : List Char → List Char → Cursor → List Char × Cursor
  | [], word, c => (word, c)
  | x :: rest, word, c =>
    if isBlank x || isBreak x || endsPlain flow x rest.head? then (word, c)
    else plainWord flow rest (x :: word) (c.skip.need 2)

/-- Read a plain scalar after the words in `acc` and the gap after them; the flag tells whether the
cursor has passed a line end after the last word. -/
def plainFrom (flow : Bool) (indent : Int) :
    Nat → List Char → Gap → Cursor → Except Error (List Char × Cursor × Bool)
  | 0, acc, gap, c => .ok (acc.reverse, c, gap.broken)
  | fuel + 1, acc, gap, c =>
    let c := c.need 4
    if c.atDocumentMarker || c.peek = some '#' then .ok (acc.reverse, c, gap.broken)
    else
      let (word, c) := plainWord flow c.rest [] c
      let acc := if word.isEmpty then acc else word ++ (gap.text.reverse ++ acc)
      let gap := if word.isEmpty then gap else {}
      if !(Cursor.test isBlank c.peek || Cursor.test isBreak c.peek) then
        .ok (acc.reverse, c, gap.broken)
      else
        match Gap.scan indent (c.left + 1) gap (c.need 1) with
        | .error e => .error e
        | .ok (gap, c) =>
          if !flow && (c.column : Int) < indent then .ok (acc.reverse, c, gap.broken)
          else plainFrom flow indent fuel acc gap c

/-- Read a plain scalar; in a block its further lines are indented. -/
def scanPlain (flow : Bool) (indent : Int) (c : Cursor) :
    Except Error (List Char × Cursor × Bool) :=
  plainFrom flow indent (c.left + 1) [] {} c

/-! ## Block scalars -/

/-- What happens to the line ends after a block scalar. -/
inductive Chomp where
  /-- All go. -/
  | strip
  /-- One stays. -/
  | clip
  /-- All stay. -/
  | keep
deriving DecidableEq

/-- The chomping indicator. -/
def chompOf? : Option Char → Option Chomp
  | some '+' => some .keep
  | some '-' => some .strip
  | _ => none

/-- The indentation indicator: a digit other than zero. -/
def incrementAt (c : Cursor) : Except Error (Nat × Cursor) :=
  let c := c.need 1
  match c.peek with
  | some d =>
    if d = '0' then .error ⟨"found an indentation indicator equal to 0"⟩
    else if d.isDigit then .ok (d.toNat - 48, c.skip)
    else .ok (0, c)
  | none => .ok (0, c)

/-- The indicators in the head of a block scalar, in either order. -/
def blockHead (c : Cursor) : Except Error (Chomp × Nat × Cursor) :=
  let c := c.need 1
  match chompOf? c.peek with
  | some chomp => (incrementAt c.skip).map fun (n, c) => (chomp, n, c)
  | none =>
    match incrementAt c with
    | .error e => .error e
    | .ok (n, c') =>
      if n = 0 then .ok (.clip, 0, c)
      else
        let c := c'.need 1
        match chompOf? c.peek with
        | some chomp => .ok (chomp, n, c.skip)
        | none => .ok (.clip, n, c)

/-- Pass the spaces in front of a line, those in the given list at most.  An indentation of zero is not
known yet. -/
def skipIndent (indent : Nat) : List Char → Cursor → Cursor
  | [], c => c
  | x :: rest, c =>
    if x = ' ' && (indent = 0 || c.column < indent) then skipIndent indent rest c.next else c

/-- Pass indentation and empty lines; `widest` is the widest indentation so far. -/
def blockBreaks (indent : Nat) :
    Nat → Nat → List Char → Cursor → Except Error (Nat × List Char × Cursor)
  | 0, widest, breaks, c => .ok (widest, breaks, c)
  | fuel + 1, widest, breaks, c =>
    let c := c.need 1
    let c := skipIndent indent c.rest c
    let widest := max widest c.column
    if (indent = 0 || c.column < indent) && c.peek = some '\t' then
      .error ⟨"found a tab character where an indentation space is expected"⟩
    else if Cursor.test isBreak c.peek then
      blockBreaks indent fuel widest (breaks ++ c.lineText) c.nextLine
    else .ok (widest, breaks, c)

/-- The indentation of a block scalar: the given one, or the widest in front of its first line, but
deeper than what is around it. -/
def blockIndent (outer : Int) (indent widest : Nat) : Nat :=
  if indent = 0 then max widest (max (outer + 1).toNat 1) else indent

/-- Read the lines of a block scalar.  `first` is the last line end and `more` the empty lines after it;
`indented` tells whether the last line started with a blank. -/
def blockLines (literal : Bool) (indent : Nat) :
    Nat → List Char → List Char → List Char → Bool → Cursor →
      Except Error (List Char × List Char × List Char × Cursor)
  | 0, acc, first, more, _, c => .ok (acc, first, more, c)
  | fuel + 1, acc, first, more, indented, c =>
    if c.column = indent && !c.atEnd then
      let blank := Cursor.test isBlank c.peek
      let joint :=
        if !literal && !indented && !blank && first.head? = some '\n' then
          (if more.isEmpty then [' '] else [])
        else first
      let (line, c) := c.readWhile fun x => !isBreak x
      let first := c.lineText
      let acc := line.reverse ++ (more.reverse ++ (joint.reverse ++ acc))
      match blockBreaks indent (c.left + 1) 0 [] c.nextLine with
      | .error e => .error e
      | .ok (_, more, c) => blockLines literal indent fuel acc first more blank c
    else .ok (acc, first, more, c)

/-- Read a block scalar at its indicator, inside a block of the given indentation. -/
def scanBlock (literal : Bool) (outer : Int) (c : Cursor) : Except Error (List Char × Cursor) :=
  match blockHead c.skip with
  | .error e => .error e
  | .ok (chomp, increment, c) =>
    let c := c.skipWhile isBlank
    let c := if c.peek = some '#' then c.skipComment else c
    if !Cursor.breakOrEnd c.peek then .error ⟨"did not find expected comment or line break"⟩
    else
      let c := if c.atEnd then c else c.nextLine
      let given := if increment = 0 then 0 else (max outer 0).toNat + increment
      match blockBreaks given (c.left + 1) 0 [] c with
      | .error e => .error e
      | .ok (widest, more, c) =>
        let indent := blockIndent outer given widest
        match blockLines literal indent (c.left + 1) [] [] more false c with
        | .error e => .error e
        | .ok (acc, first, more, c) =>
          let tail :=
            match chomp with
            | .strip => []
            | .clip => first
            | .keep => first ++ more
          .ok (acc.reverse ++ tail, c)

end CallCoupling.Yaml
