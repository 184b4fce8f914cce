import CallCoupling.Yaml.Scalar

/-!
# Tokens of a YAML text

A scanner cuts a text into tokens.  Indentation shows in the tokens: a deeper block begins with
`blockSequenceStart` or `blockMappingStart` and ends with `blockEnd`.  A key need not be marked as one, so
the scanner remembers where a key may have begun (`SimpleKey`) and puts a `key` token there when it meets
the colon after it on the same line.

Tokens wait in a queue until a reader takes them.  The scanner runs no further ahead than it has to
(`Scanner.fill`): three tokens, and as many as it takes to know whether the first of them begins a key.  What
comes after is not looked at, so an error there is none for a reader that stops in time.
-/

set_option autoImplicit false

namespace CallCoupling.Yaml

/-- A token. -/
inductive Token where
  | streamEnd
  /-- A version directive. -/
  | version (major minor : String)
  /-- A directive that gives a tag handle its meaning. -/
  | tagHandle (handle start : String)
  | documentStart
  | documentEnd
  | blockSequenceStart
  | blockMappingStart
  | blockEnd
  | flowSequenceStart
  | flowSequenceEnd
  | flowMappingStart
  | flowMappingEnd
  | blockEntry
  | flowEntry
  | key
  | value
  | alias (name : String)
  | anchor (name : String)
  | tag (handle suffix : String)
  | scalar (text : String) (plain : Bool)
deriving DecidableEq, Repr, Inhabited

/-- A place where a key without a mark may have begun. -/
structure SimpleKey where
  possible : Bool := false
  /-- In a block mapping nothing but a key may stand at its column. -/
  required : Bool := false
  /-- The number of tokens in front of it. -/
  number : Nat := 0
  /-- Does the first token of the queue wait for the colon after it? -/
  awaited : Bool := false
  index : Nat := 0
  line : Nat := 0
  column : Nat := 0
deriving Inhabited

/-- The state of the scanner. -/
structure Scanner where
  cursor : Cursor
  /-- The tokens that are not taken yet. -/
  queue : List Token := []
  /-- The number of tokens that are taken. -/
  taken : Nat := 0
  /-- The number of all tokens so far. -/
  count : Nat := 0
  /-- The column of the innermost block, and those around it. -/
  indent : Int := -1
  indents : List Int := []
  /-- The number of open brackets and braces. -/
  flowLevel : Nat := 0
  /-- May a key without a mark begin here? -/
  keyAllowed : Bool := true
  /-- One possible key per flow level, the innermost first. -/
  keys : List SimpleKey := [{}]
deriving Inhabited

namespace Scanner

/-- How deep brackets and braces, and blocks, may nest. -/
def nestingLimit : Nat := 10000

/-- Append a token. -/
def push (s : Scanner) (t : Token) : Scanner :=
  { s with queue := s.queue ++ [t], count := s.count + 1 }

/-- Insert a token after the first `n` tokens; if the token there is already taken, append it. -/
def insertAt (s : Scanner) (n : Nat) (t : Token) : Scanner :=
  if n < s.taken then s.push t
  else { s with queue := s.queue.insertIdx (n - s.taken) t, count := s.count + 1 }

/-- Is the scanner outside all brackets and braces? -/
def inBlock (s : Scanner) : Bool := s.flowLevel = 0

/-- The innermost possible key. -/
def currentKey (s : Scanner) : SimpleKey := s.keys.head?.getD {}

/-- Replace the innermost possible key. -/
def setKey (s : Scanner) (k : SimpleKey) : Scanner := { s with keys := k :: s.keys.tail }

/-- The error of a key without a colon. -/
def missingColon : Error := ⟨"could not find expected ':'"⟩

/-- Give up the innermost possible key. -/
def removeKey (s : Scanner) : Except Error Scanner :=
  let k := s.currentKey
  if k.possible then
    if k.required then .error missingColon else .ok (s.setKey { k with possible := false })
  else .ok s

/-- Remember that a key may begin at the cursor. -/
def saveKey (s : Scanner) : Except Error Scanner :=
  if s.keyAllowed then
    match s.removeKey with
    | .error e => .error e
    | .ok s =>
      .ok (s.setKey
        { possible := true
          required := s.inBlock && s.indent = (s.cursor.column : Int)
          number := s.count
          awaited := true
          index := s.cursor.index
          line := s.cursor.line
          column := s.cursor.column })
  else .ok s

/-- Close the blocks that are indented deeper than a column. -/
def closeBlocks (column : Int) : List Int → Scanner → Scanner
  | [], s => s
  | outer :: rest, s =>
    if s.indent > column then
      closeBlocks column rest { s.push .blockEnd with indent := outer, indents := rest }
    else s

/-- Close the blocks that end before a column. -/
def unroll (s : Scanner) (column : Int) : Scanner :=
  if s.inBlock then closeBlocks column s.indents s else s

/-- Open a block at a column if it is deeper than the innermost one; its token goes in front of all but
the first `number` tokens. -/
def roll (s : Scanner) (column number : Nat) (t : Token) : Except Error Scanner :=
  if s.inBlock && s.indent < (column : Int) then
    if s.indents.length ≥ nestingLimit then .error ⟨"exceeded max depth"⟩
    else
      .ok ({ s with indents := s.indent :: s.indents, indent := (column : Int) }.insertAt number t)
  else .ok s

/-! ## Between tokens -/

/-- Pass blanks, comments and line ends.  A tab counts as a blank only where no key may begin.  Where a line
starts, one character is passed unread if the text at hand starts with a byte order mark. -/
def toNext : Nat → Scanner → Scanner
  | 0, s => s
  | fuel + 1, s =>
    let c := s.cursor.need 1
    let c := if c.column = 0 && c.marked then c.skip else c
    let c := c.skipWhile fun x => x = ' ' || ((!s.inBlock || !s.keyAllowed) && x = '\t')
    let c := if c.peek = some '#' then c.skipComments (c.left + 1) else c
    if Cursor.test isBreak c.peek then
      toNext fuel { s with cursor := c.nextLine, keyAllowed := s.keyAllowed || s.inBlock }
    else { s with cursor := c }

/-! ## Directives, anchors and tags -/

/-- May a character stand in a tag? -/
def inTag (c : Char) : Bool :=
  isWord c || [';', '/', '?', ':', '@', '&', '=', '+', '$', ',', '.', '!', '~', '*', '\'', '(', ')',
    '[', ']', '%'].contains c

/-- The bytes that a run of tag characters spells, percent escapes decoded.  A first byte announces how
many escapes belong together, and `more` of them are still due. -/
def tagBytes : Nat → List Char → Option (List UInt8)
  | 0, [] => some []
  | _ + 1, [] => none
  | more, '%' :: a :: b :: rest =>
    match (hexNumber? [a, b] 0).map UInt8.ofNat, more with
    | none, _ => none
    | some octet, 0 =>
      if Source.announced octet = 0 then none
      else (tagBytes (Source.announced octet - 1) rest).map (octet :: ·)
    | some octet, more + 1 =>
      if Loose.isContinuation octet then (tagBytes more rest).map (octet :: ·) else none
  | more, c :: rest =>
    if c = '%' || 0 < more then none
    else (tagBytes 0 rest).map (String.utf8EncodeChar c ++ ·)

/-- Read the characters of a tag. -/
def tagText (c : Cursor) : Except Error (List Char × Cursor) :=
  let (run, c) := c.readWhile inTag
  match tagBytes 0 run with
  | some bytes => .ok ((Loose.ofBytes bytes).shownChars, c)
  | none => .error ⟨"did not find URI escaped octet"⟩

/-- Read a handle: an exclamation mark, and perhaps a word and another one. -/
def handleText (c : Cursor) : List Char × Cursor :=
  let (word, c) := c.skip.readWhile isWord
  if c.peek = some '!' then ('!' :: word ++ ['!'], c.skip) else ('!' :: word, c)

/-- Read a tag. -/
def scanTag (c : Cursor) : Except Error (Token × Cursor) :=
  let c := c.need 2
  let found : Except Error (Token × Cursor) :=
    if c.peekAt 1 = some '<' then
      match tagText (c.skipMany 2) with
      | .error e => .error e
      | .ok (text, c) =>
        if text.isEmpty then .error ⟨"did not find expected tag URI"⟩
        else if c.peek = some '>' then .ok (.tag "" (String.ofList text), c.skip)
        else .error ⟨"did not find the expected '>'"⟩
    else
      let (handle, c) := handleText c
      match tagText c with
      | .error e => .error e
      | .ok (text, c) =>
        if handle.length > 1 && handle.getLast? = some '!' then
          if text.isEmpty then .error ⟨"did not find expected tag URI"⟩
          else .ok (.tag (String.ofList handle) (String.ofList text), c)
        else
          let suffix := handle.tail ++ text
          if suffix.isEmpty then .ok (.tag "" "!", c) else .ok (.tag "!" (String.ofList suffix), c)
  match found with
  | .error e => .error e
  | .ok (t, c) =>
    let c := c.need 1
    if Cursor.blankOrEnd c.peek then .ok (t, c)
    else .error ⟨"did not find expected whitespace or line break"⟩

/-- Read the name of an anchor or an alias after its mark. -/
def scanName (c : Cursor) : Except Error (String × Cursor) :=
  let (name, c) := c.skip.readWhile isWord
  let ends := match c.peek with
    | some x => isBlank x || isBreak x || ['?', ':', ',', ']', '%', '@'].contains x ||
        x.toNat = 0x7D || x.toNat = 0x60
    | none => true
  if name.isEmpty || !ends then .error ⟨"did not find expected alphabetic or numeric character"⟩
  else .ok (String.ofList name, c)

/-- How many digits a number of a version may have. -/
def versionDigits : Nat := 2

/-- Read the two numbers of a version directive. -/
def scanVersion (c : Cursor) : Except Error (Token × Cursor) :=
  let (major, c) := (c.skipWhile isBlank).readWhile Char.isDigit
  if major.isEmpty || versionDigits < major.length || c.peek ≠ some '.' then
    .error ⟨"did not find expected version number"⟩
  else
    let (minor, c) := c.skip.readWhile Char.isDigit
    if minor.isEmpty || versionDigits < minor.length then
      .error ⟨"did not find expected version number"⟩
    else .ok (.version (String.ofList major) (String.ofList minor), c)

/-- Read the handle and the text of a tag directive. -/
def scanHandle (c : Cursor) : Except Error (Token × Cursor) :=
  let c := c.skipWhile isBlank
  if c.peek ≠ some '!' then .error ⟨"did not find expected '!'"⟩
  else
    let (handle, c) := handleText c
    if handle ≠ ['!'] && handle.getLast? ≠ some '!' then .error ⟨"did not find expected '!'"⟩
    else if !Cursor.test isBlank (c.need 1).peek then .error ⟨"did not find expected whitespace"⟩
    else
      match tagText (c.skipWhile isBlank) with
      | .error e => .error e
      | .ok (text, c) =>
        if text.isEmpty then .error ⟨"did not find expected tag URI"⟩
        else if !Cursor.blankOrEnd c.peek then
          .error ⟨"did not find expected whitespace or line break"⟩
        else .ok (.tagHandle (String.ofList handle) (String.ofList text), c)

/-- Read a directive line. -/
def scanDirective (c : Cursor) : Except Error (Token × Cursor) :=
  let (name, c) := c.skip.readWhile isWord
  if name.isEmpty || !Cursor.blankOrEnd c.peek then .error ⟨"could not find directive name"⟩
  else
    let found :=
      if name = "YAML".toList then scanVersion c
      else if name = "TAG".toList then scanHandle c
      else .error ⟨"found unknown directive name"⟩
    match found with
    | .error e => .error e
    | .ok (t, c) =>
      let c := c.skipWhile isBlank
      let c := if c.peek = some '#' then c.skipComment else c
      if Cursor.breakOrEnd c.peek then .ok (t, if c.atEnd then c else c.nextLine)
      else .error ⟨"did not find expected comment or line break"⟩

/-! ## One token -/

/-- Put a token at the cursor that takes one character. -/
def emit (s : Scanner) (t : Token) : Scanner := { s with cursor := s.cursor.skip }.push t

/-- Pass the comment on the rest of the line. -/
def passComment (s : Scanner) : Scanner := { s with cursor := s.cursor.skipLineComment }

/-- The end of the text starts a line of its own and closes all blocks. -/
def fetchEnd (s : Scanner) : Except Error Scanner :=
  let c := s.cursor
  let c := if c.column = 0 then c else { c with column := 0, line := c.line + 1 }
  match ({ s with cursor := c }.unroll (-1)).removeKey with
  | .error e => .error e
  | .ok s => .ok ({ s with keyAllowed := false }.push .streamEnd)

/-- A directive or a marker between documents closes all blocks. -/
def fetchDocument (s : Scanner) (scan : Cursor → Except Error (Token × Cursor)) :
    Except Error Scanner :=
  match (s.unroll (-1)).removeKey with
  | .error e => .error e
  | .ok s =>
    match scan s.cursor with
    | .error e => .error e
    | .ok (t, c) => .ok ({ s with keyAllowed := false, cursor := c }.push t)

/-- An opening bracket or brace may itself begin a key. -/
def fetchOpen (s : Scanner) (t : Token) : Except Error Scanner :=
  match s.saveKey with
  | .error e => .error e
  | .ok s =>
    if s.flowLevel ≥ nestingLimit then .error ⟨"exceeded max depth"⟩
    else
      let inner : SimpleKey := { number := s.count }
      let s :=
        { s with keys := inner :: s.keys, flowLevel := s.flowLevel + 1, keyAllowed := true }
      .ok (s.emit t).passComment

/-- Leave brackets or braces.  If no key began inside them, the queue does not wait any longer for the
colon after them. -/
def closeFlow (s : Scanner) : Scanner :=
  match s.keys with
  | inner :: outer :: keys =>
    let outer := if outer.number = inner.number then { outer with awaited := false } else outer
    { s with keys := outer :: keys, flowLevel := s.flowLevel - 1 }
  | _ => s

/-- A closing bracket or brace. -/
def fetchClose (s : Scanner) (t : Token) : Except Error Scanner :=
  match s.removeKey with
  | .error e => .error e
  | .ok s =>
    let s := if s.inBlock then s else s.closeFlow
    .ok ({ s with keyAllowed := false }.emit t).passComment

/-- A comma. -/
def fetchEntry (s : Scanner) : Except Error Scanner :=
  match s.removeKey with
  | .error e => .error e
  | .ok s => .ok ({ s with keyAllowed := true }.emit .flowEntry).passComment

/-- A hyphen that begins an item. -/
def fetchBlockEntry (s : Scanner) : Except Error Scanner :=
  if s.inBlock && !s.keyAllowed then
    .error ⟨"block sequence entries are not allowed in this context"⟩
  else
    match s.roll s.cursor.column s.count .blockSequenceStart with
    | .error e => .error e
    | .ok s =>
      match s.removeKey with
      | .error e => .error e
      | .ok s => .ok ({ s with keyAllowed := true }.emit .blockEntry)

/-- A question mark that begins a key. -/
def fetchKey (s : Scanner) : Except Error Scanner :=
  if s.inBlock && !s.keyAllowed then .error ⟨"mapping keys are not allowed in this context"⟩
  else
    match s.roll s.cursor.column s.count .blockMappingStart with
    | .error e => .error e
    | .ok s =>
      match s.removeKey with
      | .error e => .error e
      | .ok s => .ok ({ s with keyAllowed := s.inBlock }.emit .key).passComment

/-- Does a possible key still stand, at most 1024 characters back on the same line? -/
def keyStands (c : Cursor) (k : SimpleKey) : Except Error Bool :=
  if !k.possible then .ok false
  else if k.line < c.line || k.index + 1024 < c.index then
    if k.required then .error missingColon else .ok false
  else .ok true

/-- A colon after a key. -/
def fetchValue (s : Scanner) : Except Error Scanner :=
  let k := s.currentKey
  match keyStands s.cursor k with
  | .error e => .error e
  | .ok true =>
    match (s.insertAt k.number .key).roll k.column k.number .blockMappingStart with
    | .error e => .error e
    | .ok s =>
      let s := { s.setKey { k with possible := false } with keyAllowed := false }
      .ok (s.emit .value).passComment
  | .ok false =>
    let s := s.setKey { k with possible := false }
    if s.inBlock && !s.keyAllowed then
      .error ⟨"mapping values are not allowed in this context"⟩
    else
      match s.roll s.cursor.column s.count .blockMappingStart with
      | .error e => .error e
      | .ok s => .ok ({ s with keyAllowed := s.inBlock }.emit .value).passComment

/-- A token that may begin a key. -/
def fetchNamed (s : Scanner) (scan : Cursor → Except Error (Token × Cursor)) :
    Except Error Scanner :=
  match s.saveKey with
  | .error e => .error e
  | .ok s =>
    match scan s.cursor with
    | .error e => .error e
    | .ok (t, c) => .ok ({ s with keyAllowed := false, cursor := c }.push t).passComment

/-- A block scalar. -/
def fetchBlockScalar (s : Scanner) (literal : Bool) : Except Error Scanner :=
  match s.removeKey with
  | .error e => .error e
  | .ok s =>
    match scanBlock literal s.indent s.cursor with
    | .error e => .error e
    | .ok (text, c) =>
      .ok ({ s with keyAllowed := true, cursor := c }.push (.scalar (String.ofList text) false))

/-- A plain scalar; a key may begin after it if it ends with its line. -/
def fetchPlain (s : Scanner) : Except Error Scanner :=
  match s.saveKey with
  | .error e => .error e
  | .ok s =>
    match scanPlain (!s.inBlock) (s.indent + 1) s.cursor with
    | .error e => .error e
    | .ok (text, c, broken) =>
      let s := { s with keyAllowed := broken, cursor := c }.push (.scalar (String.ofList text) true)
      .ok (if broken then s else s.passComment)

/-- Can a plain scalar begin with this character? -/
def beginsPlain (inBlock : Bool) (x : Char) (next : Option Char) : Bool :=
  let indicator :=
    ['-', '?', ':', ',', '[', ']', '#', '&', '*', '!', '|', '>', '\'', '"', '%', '@'].contains x ||
      x.toNat = 0x7B || x.toNat = 0x7D || x.toNat = 0x60
  !(isBlank x || isBreak x || indicator) ||
    (x = '-' && !Cursor.test isBlank next) ||
    (inBlock && (x = '?' || x = ':') && !Cursor.blankOrEnd next)

/-- Scan the next token. -/
def scan (s : Scanner) : Except Error Scanner :=
  let s := toNext (s.cursor.left + 1) s
  let c := s.cursor.need 4
  let s := { s with cursor := c }.unroll (c.column : Int)
  let next := c.peekAt 1
  match c.peek with
  | none => s.fetchEnd
  | some x =>
    if c.column = 0 && x = '%' then s.fetchDocument scanDirective
    else if c.atMarker '-' then s.fetchDocument fun c => .ok (.documentStart, c.skipMany 3)
    else if c.atMarker '.' then s.fetchDocument fun c => .ok (.documentEnd, c.skipMany 3)
    else if x = '[' then s.fetchOpen .flowSequenceStart
    else if x.toNat = 0x7B then s.fetchOpen .flowMappingStart
    else if x = ']' then s.fetchClose .flowSequenceEnd
    else if x.toNat = 0x7D then s.fetchClose .flowMappingEnd
    else if x = ',' then s.fetchEntry
    else if x = '-' && Cursor.blankOrEnd next then s.fetchBlockEntry
    else if x = '?' && (!s.inBlock || Cursor.blankOrEnd next) then s.fetchKey
    else if x = ':' && (!s.inBlock || Cursor.blankOrEnd next) then s.fetchValue
    else if x = '*' then s.fetchNamed fun c => (scanName c).map fun (n, c) => (.alias n, c)
    else if x = '&' then s.fetchNamed fun c => (scanName c).map fun (n, c) => (.anchor n, c)
    else if x = '!' then s.fetchNamed scanTag
    else if x = '|' && s.inBlock then s.fetchBlockScalar true
    else if x = '>' && s.inBlock then s.fetchBlockScalar false
    else if x = '\'' || x = '"' then
      s.fetchNamed fun c =>
        (scanQuoted x c).map fun (text, c) => (.scalar (String.ofList text) false, c)
    else if beginsPlain s.inBlock x next then s.fetchPlain
    else .error ⟨"found character that cannot start any token"⟩

/-- Fetch the next token, unless the text needed for it is damaged. -/
def fetch (s : Scanner) : Except Error Scanner :=
  match s.scan with
  | .error e => .error e
  | .ok s => if s.cursor.failed then .error ⟨"the bytes do not spell text"⟩ else .ok s

/-! ## The queue -/

/-- The awaited key that begins with the token of a number; the keys of inner brackets have higher numbers. -/
def keyOf? (number : Nat) : List SimpleKey → Option SimpleKey
  | [] => none
  | k :: keys =>
    if k.number < number then none
    else if k.awaited && k.number = number then some k
    else keyOf? number keys

/-- Can the first token be taken?  There are two behind it, and it cannot become a key any more. -/
def ready (s : Scanner) : Except Error Bool :=
  match s.queue with
  | _ :: _ :: _ :: _ =>
    match keyOf? s.taken s.keys with
    | some k => (keyStands s.cursor k).map (!·)
    | none => .ok true
  | _ => .ok false

/-- Fetch tokens until the first can be taken. -/
def fill : Nat → Scanner → Except Error Scanner
  | 0, s => .ok s
  | fuel + 1, s =>
    match s.ready with
    | .error e => .error e
    | .ok true => .ok s
    | .ok false =>
      match s.fetch with
      | .error e => .error e
      | .ok s => fill fuel s

/-- The first token, and the scanner that has it in its queue.  Every fetch but those of the end passes a
character. -/
def peek (s : Scanner) : Except Error (Token × Scanner) :=
  (s.fill (s.cursor.left + 4)).map fun s => (s.queue.head?.getD .streamEnd, s)

/-- Take the first token. -/
def take (s : Scanner) : Scanner := { s with queue := s.queue.tail, taken := s.taken + 1 }

/-- The start of a text. -/
def start (source : Source) : Scanner := { cursor := .start source }

end Scanner

end CallCoupling.Yaml
