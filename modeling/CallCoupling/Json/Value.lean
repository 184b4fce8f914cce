import CallCoupling.Number.Integer
import CallCoupling.Text.Quoted

/-!
# JSON values

A value keeps the spelling of what it was read from: numbers as their literal, strings as the
characters between the quotes, escapes included, and fields in order with their repeats.  So writing
a value again changes nothing but the blanks.  `Json.unescape` reads the text of a spelling and
`Json.escape` spells a text; `Json.unescape (Json.escape s)` is `s`.
-/

set_option autoImplicit false

namespace CallCoupling

/-- A JSON value with its spelling. -/
inductive Json where
  | null
  | bool (b : Bool)
  | number (literal : String)
  | string (spelling : List Char)
  | array (items : List Json)
  | object (fields : List (List Char × Json))
deriving Inhabited

namespace Json

/-! ## Spelling of strings -/

/-- A character as it is spelled in data.  The marks of markup and the two line separators are spelled
by number, so that the text can stand inside a page. -/
def escapeChar (c : Char) : List Char :=
  let n := c.toNat
  if c = '"' then ['\\', '"']
  else if c = '\\' then ['\\', '\\']
  else if n = 8 then ['\\', 'b']
  else if n = 12 then ['\\', 'f']
  else if n = 10 then ['\\', 'n']
  else if n = 13 then ['\\', 'r']
  else if n = 9 then ['\\', 't']
  else if n < 0x20 || c = '<' || c = '>' || c = '&' || n = 0x2028 || n = 0x2029 then
    '\\' :: 'u' :: Text.hex 4 n
  else [c]

/-- The spelling of a text. -/
def escape (s : String) : List Char := s.toList.flatMap escapeChar

/-- The number of four hexadecimal digits. -/
def hexValue? : List Char → Option Nat
  | [a, b, c, d] => do
    let digit (x : Char) : Option Nat := (Integer.digitValue? x).filter (· < 16)
    let a ← digit a
    let b ← digit b
    let c ← digit c
    let d ← digit d
    pure (((a * 16 + b) * 16 + c) * 16 + d)
  | _ => none

/-- The character that a letter stands for after a backslash. -/
def escapedLetter? : Char → Option Char
  | '"' => some '"'
  | '\\' => some '\\'
  | '/' => some '/'
  | 'b' => some (Char.ofNat 8)
  | 'f' => some (Char.ofNat 12)
  | 'n' => some '\n'
  | 'r' => some '\r'
  | 't' => some '\t'
  | _ => none

/-- The first half of a pair that spells one character. -/
def isHighHalf (n : Nat) : Bool := 0xD800 ≤ n && n ≤ 0xDBFF

/-- The second half of a pair that spells one character. -/
def isLowHalf (n : Nat) : Bool := 0xDC00 ≤ n && n ≤ 0xDFFF

/-- The character that two halves spell. -/
def joined (high low : Nat) : Char := Char.ofNat (0x10000 + (high - 0xD800) * 0x400 + (low - 0xDC00))

/-- The character with a number; a half that stands alone becomes the replacement character. -/
def single (n : Nat) : Char :=
  if isHighHalf n || isLowHalf n then Loose.replacement else Char.ofNat n

/-- The text of a spelling, read unit by unit; `none` if an escape is malformed.  `pending` is a first
half that waits for its second. -/
def unescapeFrom (pending : Option Nat) : List Char → Option (List Char)
  | [] => some (match pending with | some _ => [Loose.replacement] | none => [])
  | '\\' :: 'u' :: a :: b :: c :: d :: rest =>
    match hexValue? [a, b, c, d] with
    | none => none
    | some n =>
      match pending with
      | some high =>
        if isLowHalf n then (unescapeFrom none rest).map (joined high n :: ·)
        else if isHighHalf n then (unescapeFrom (some n) rest).map (Loose.replacement :: ·)
        else (unescapeFrom none rest).map fun s => Loose.replacement :: single n :: s
      | none =>
        if isHighHalf n then unescapeFrom (some n) rest
        else (unescapeFrom none rest).map (single n :: ·)
  | '\\' :: c :: rest =>
    match escapedLetter? c with
    | none => none
    | some c =>
      (unescapeFrom none rest).map fun s =>
        match pending with | some _ => Loose.replacement :: c :: s | none => c :: s
  | c :: rest =>
    (unescapeFrom none rest).map fun s =>
      match pending with | some _ => Loose.replacement :: c :: s | none => c :: s

/-- The text of a spelling. -/
def unescape (spelling : List Char) : Option String :=
  (unescapeFrom none spelling).map String.ofList

/-! ## Making values -/

/-- A text as a value. -/
def text (s : String) : Json := .string (escape s)

/-- Loose text as a value; what is no text is shown by the replacement character. -/
def loose (t : Loose) : Json := text t.shown

/-- A whole number as a value. -/
def int (n : Int) : Json := .number (Integer.text n)

/-- A natural number as a value. -/
def nat (n : Nat) : Json := .number (Integer.text n)

/-- An object from names and values. -/
def ofFields (fields : List (String × Json)) : Json :=
  .object (fields.map fun (k, v) => (escape k, v))

/-- A spelling in which the marks of markup and the line separators are spelled by number. -/
def safeSpelling (spelling : List Char) : List Char :=
  spelling.flatMap fun c =>
    let n := c.toNat
    if c = '<' || c = '>' || c = '&' || n = 0x2028 || n = 0x2029 then '\\' :: 'u' :: Text.hex 4 n
    else [c]

mutual

/-- A value with every spelling safe inside a page. -/
def safe : Json → Json
  | .null => .null
  | .bool b => .bool b
  | .number l => .number l
  | .string s => .string (safeSpelling s)
  | .array items => .array (safeItems items)
  | .object fields => .object (safeFields fields)

/-- The items of an array with every spelling safe. -/
def safeItems : List Json → List Json
  | [] => []
  | v :: vs => v.safe :: safeItems vs

/-- The fields of an object with every spelling safe. -/
def safeFields : List (List Char × Json) → List (List Char × Json)
  | [] => []
  | (k, v) :: rest => (safeSpelling k, v.safe) :: safeFields rest

end

/-! ## Taking values apart -/

/-- The text of a string. -/
def text? : Json → Option String
  | .string s => unescape s
  | _ => none

/-- The fields of an object with their names as text. -/
def fields? : Json → Option (List (String × Json))
  | .object fields => some (fields.map fun (k, v) => ((unescape k).getD "", v))
  | _ => none

/-- The items of an array. -/
def items? : Json → Option (List Json)
  | .array items => some items
  | _ => none

/-- The number of a literal without fraction and exponent, if it fits 64 bits. -/
def int? : Json → Option Int
  | .number l => (Integer.parseDecimal l).toOption
  | _ => none

end Json

end CallCoupling
