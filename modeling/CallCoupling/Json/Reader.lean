import CallCoupling.Json.Value

/-!
# Reading JSON

Reading has two steps.  `Token.scan` cuts the text into tokens, one character at a time; `Json.ofTokens?`
feeds the tokens to a machine whose state holds the containers that are still open.  Both run over their
input once, so they end without any bound of their own.  A document nests at most `depthLimit` deep.
-/

set_option autoImplicit false

namespace CallCoupling.Json

/-- A piece of JSON text. -/
inductive Token where
  /-- One of the six structural marks. -/
  | mark (c : Char)
  | null
  | bool (b : Bool)
  | number (literal : String)
  | string (spelling : List Char)
deriving DecidableEq, Inhabited

namespace Token

/-! ## Cutting text into tokens -/

/-- The blanks between tokens. -/
def isSpace (c : Char) : Bool := c = ' ' || c = '\t' || c = '\n' || c = '\r'

/-- The structural marks: brackets, braces, colon and comma. -/
def isMark (c : Char) : Bool :=
  c = '[' || c = ']' || c = ':' || c = ',' || c.toNat = 0x7B || c.toNat = 0x7D

/-- May a character stand in a number? -/
def inNumber (c : Char) : Bool :=
  c.isDigit || c = '-' || c = '+' || c = '.' || c = 'e' || c = 'E'

/-- Digits, at least one of them, then nothing else. -/
def digitsOnly (s : List Char) : Bool := !s.isEmpty && s.all Char.isDigit

/-- What may follow the whole part of a number: an exponent. -/
def exponentOk : List Char → Bool
  | [] => true
  | e :: rest =>
    (e = 'e' || e = 'E') &&
      match rest with
      | '+' :: ds | '-' :: ds => digitsOnly ds
      | ds => digitsOnly ds

/-- What may follow the whole part of a number: a fraction, then an exponent. -/
def fractionOk : List Char → Bool
  | '.' :: rest =>
    !(rest.takeWhile Char.isDigit).isEmpty && exponentOk (rest.dropWhile Char.isDigit)
  | s => exponentOk s

/-- A number without its sign: no zero in front of other digits. -/
def magnitudeOk : List Char → Bool
  | '0' :: rest => fractionOk rest
  | s => !(s.takeWhile Char.isDigit).isEmpty && fractionOk (s.dropWhile Char.isDigit)

/-- Is a run of characters a number? -/
def numberOk : List Char → Bool
  | '-' :: s => magnitudeOk s
  | s => magnitudeOk s

/-- The token of a word. -/
def ofWord? (w : List Char) : Option Token :=
  match String.ofList w with
  | "null" => some .null
  | "true" => some (.bool true)
  | "false" => some (.bool false)
  | _ => none

/-- Where the scanner is; texts are kept in reverse. -/
inductive Place where
  | between
  | inString (done : List Char)
  | inEscape (done : List Char)
  | inHex (left : Nat) (done : List Char)
  | inNumber (done : List Char)
  | inWord (done : List Char)
deriving DecidableEq

/-- Begin a token with a character. -/
def start (c : Char) (done : List Token) : Option (Place × List Token) :=
  if isSpace c then some (.between, done)
  else if isMark c then some (.between, .mark c :: done)
  else if c = '"' then some (.inString [], done)
  else if c.isDigit || c = '-' then some (.inNumber [c], done)
  else if c.isAlpha then some (.inWord [c], done)
  else none

/-- Finish the number or word that was being read. -/
def finish (place : Place) (done : List Token) : Option (List Token) :=
  match place with
  | .between => some done
  | .inNumber s =>
    if numberOk s.reverse then some (.number (String.ofList s.reverse) :: done) else none
  | .inWord s => (ofWord? s.reverse).map (· :: done)
  | _ => none

/-- Read one character. -/
def step (c : Char) (place : Place) (done : List Token) : Option (Place × List Token) :=
  match place with
  | .between => start c done
  | .inString s =>
    if c = '"' then some (.between, .string s.reverse :: done)
    else if c = '\\' then some (.inEscape (c :: s), done)
    else if c.toNat < 0x20 then none
    else some (.inString (c :: s), done)
  | .inEscape s =>
    if c = 'u' then some (.inHex 3 (c :: s), done)
    else if (escapedLetter? c).isSome then some (.inString (c :: s), done)
    else none
  | .inHex left s =>
    if ((Integer.digitValue? c).filter (· < 16)).isSome then
      match left with
      | 0 => some (.inString (c :: s), done)
      | left + 1 => some (.inHex left (c :: s), done)
    else none
  | .inNumber s =>
    if inNumber c then some (.inNumber (c :: s), done)
    else (finish place done).bind (start c)
  | .inWord s =>
    if c.isAlpha then some (.inWord (c :: s), done) else (finish place done).bind (start c)

/-- Read all characters; the tokens are kept in reverse. -/
def scanFrom : List Char → Place → List Token → Option (List Token)
  | [], place, done => finish place done
  | c :: cs, place, done =>
    match step c place done with
    | some (place, done) => scanFrom cs place done
    | none => none

/-- The tokens of a text. -/
def scan (s : List Char) : Option (List Token) := (scanFrom s .between []).map List.reverse

end Token

/-! ## From tokens to values -/

/-- A container that waits for the value being read; done parts are kept in reverse. -/
inductive Frame where
  | list (done : List Json)
  | object (done : List (List Char × Json)) (key : List Char)

/-- Where the machine is inside the containers that are open. -/
inductive State where
  /-- Before the document. -/
  | top
  /-- Before an item; right after the bracket the list may also close. -/
  | item (first : Bool) (done : List Json) (outer : List Frame)
  | afterItem (done : List Json) (outer : List Frame)
  /-- Before a key; right after the brace the object may also close. -/
  | key (first : Bool) (done : List (List Char × Json)) (outer : List Frame)
  | colon (done : List (List Char × Json)) (key : List Char) (outer : List Frame)
  | value (done : List (List Char × Json)) (key : List Char) (outer : List Frame)
  | afterValue (done : List (List Char × Json)) (outer : List Frame)
  | finished (v : Json)

/-- Hand a value to the container around it. -/
def deliver (v : Json) : List Frame → State
  | [] => .finished v
  | .list done :: outer => .afterItem (v :: done) outer
  | .object done key :: outer => .afterValue ((key, v) :: done) outer

/-- Begin a value inside the given containers. -/
def begin (t : Token) (outer : List Frame) : Option State :=
  match t with
  | .null => some (deliver .null outer)
  | .bool b => some (deliver (.bool b) outer)
  | .number l => some (deliver (.number l) outer)
  | .string s => some (deliver (.string s) outer)
  | .mark c =>
    if c = '[' then some (.item true [] outer)
    else if c.toNat = 0x7B then some (.key true [] outer)
    else none

/-- Take one token. -/
def State.step (s : State) (t : Token) : Option State :=
  match s with
  | .top => begin t []
  | .item first done outer =>
    if first && t = .mark ']' then some (deliver (.array []) outer)
    else begin t (.list done :: outer)
  | .afterItem done outer =>
    if t = .mark ',' then some (.item false done outer)
    else if t = .mark ']' then some (deliver (.array done.reverse) outer)
    else none
  | .key first done outer =>
    match t with
    | .string k => some (.colon done k outer)
    | .mark c => if first && c.toNat = 0x7D then some (deliver (.object []) outer) else none
    | _ => none
  | .colon done name outer => if t = .mark ':' then some (.value done name outer) else none
  | .value done name outer => begin t (.object done name :: outer)
  | .afterValue done outer =>
    match t with
    | .mark c =>
      if c = ',' then some (.key false done outer)
      else if c.toNat = 0x7D then some (deliver (.object done.reverse) outer)
      else none
    | _ => none
  | .finished _ => none

/-- Take all tokens. -/
def State.run : List Token → State → Option Json
  | [], .finished v => some v
  | [], _ => none
  | t :: ts, s =>
    match s.step t with
    | some s => State.run ts s
    | none => none

/-- How deep a document may nest. -/
def depthLimit : Nat := 10000

/-- Does nesting stay within the limit, from `depth` open containers on? -/
def shallow : Nat → List Token → Bool
  | _, [] => true
  | depth, .mark c :: ts =>
    if c = '[' || c.toNat = 0x7B then depth < depthLimit && shallow (depth + 1) ts
    else if c = ']' || c.toNat = 0x7D then shallow (depth - 1) ts
    else shallow depth ts
  | depth, _ :: ts => shallow depth ts

/-- The value that tokens spell. -/
def ofTokens? (ts : List Token) : Option Json :=
  if shallow 0 ts then State.run ts .top else none

/-- The value of a text. -/
def parse? (s : List Char) : Option Json := (Token.scan s).bind ofTokens?

end CallCoupling.Json
