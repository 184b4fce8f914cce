import CallCoupling.Number.Binary
import CallCoupling.Yaml.Node
import CallCoupling.Yaml.Timestamp

/-!
# The meaning of scalars

A plain scalar without a tag means what it looks like: null, a truth value, a number or else a text.  A
quoted or block scalar is a text.  A tag of the core schema must fit what the scalar looks like; any other
tag makes it a text.  Whatever it means, a scalar read into a text field gives its text as written.
-/

set_option autoImplicit false

namespace CallCoupling.Yaml

/-- What a scalar means. -/
inductive Meaning where
  | null
  | bool (b : Bool)
  | int (n : Int)
  | float (x : Binary)
  | text
  /-- A point in time. -/
  | time
deriving DecidableEq, Repr

/-- The spellings of null. -/
def nullWords : List String := ["", "~", "null", "Null", "NULL"]

/-- Digits, if there is at least one and nothing else. -/
def number? (s : List Char) : Option Nat :=
  if s.isEmpty || !s.all Char.isDigit then none
  else some (s.foldl (fun n c => n * 10 + (c.toNat - 48)) 0)

/-- The exponent of a decimal number, zero if there is none. -/
def exponent? : List Char → Option Int
  | [] => some 0
  | e :: rest =>
    if e = 'e' || e = 'E' then
      match rest with
      | '-' :: ds => (number? ds).map fun n => -(n : Int)
      | '+' :: ds => (number? ds).map Int.ofNat
      | ds => (number? ds).map Int.ofNat
    else none

/-- A decimal number without a sign: digits with an optional point, and an optional exponent. -/
def decimal? (s : List Char) : Option (Nat × Int) :=
  let whole := s.takeWhile Char.isDigit
  let rest := s.dropWhile Char.isDigit
  match rest with
  | '.' :: rest =>
    let part := rest.takeWhile Char.isDigit
    if whole.isEmpty && part.isEmpty then none
    else
      match number? (whole ++ part), exponent? (rest.dropWhile Char.isDigit) with
      | some n, some e => some (n, e - (part.length : Int))
      | _, _ => none
  | _ =>
    match number? whole, exponent? rest with
    | some n, some e => some (n, e)
    | _, _ => none

/-- A decimal number with an optional sign, unless it is too large. -/
def float? (s : List Char) : Option Binary :=
  let (negative, body) := Integer.signOf s
  match decimal? body with
  | some (n, e) =>
    match Binary.ofDecimal negative n e with
    | .infinite _ => none
    | x => some x
  | none => none

/-- A whole number, which without a sign may take all 64 bits. -/
def plainInt? (s : List Char) : Option Int :=
  match Integer.parse (String.ofList s) with
  | .ok n => some n
  | .error _ =>
    let (base, digits, gapsFine) := Integer.baseOf s
    match Integer.readDigits base true 0 digits with
    | .ok n => if gapsFine && !s.isEmpty then some n else none
    | .error _ => none

/-- Digits of a base behind a sign. -/
def signedDigits? (base : Nat) (s : List Char) : Option Int :=
  let (negative, digits) := Integer.signOf s
  if digits.isEmpty then none
  else
    match Integer.readDigits base false 0 digits with
    | .ok n => (Integer.signed negative n).toOption
    | .error _ => none

/-- A whole number; behind the binary and the octal base there may be a sign. -/
def int? (s : List Char) : Option Int :=
  match plainInt? s with
  | some n => some n
  | none =>
    match s with
    | '0' :: 'b' :: rest => signedDigits? 2 rest
    | '0' :: 'o' :: rest => signedDigits? 8 rest
    | _ => none

/-- The names of infinities and of no number. -/
def namedFloat? (s : String) : Option Binary :=
  if [".nan", ".NaN", ".NAN"].contains s then some .nan
  else if [".inf", ".Inf", ".INF", "+.inf", "+.Inf", "+.INF"].contains s then some (.infinite false)
  else if ["-.inf", "-.Inf", "-.INF"].contains s then some (.infinite true)
  else none

/-- What a number looks like: underscores in it do not count. -/
def numberMeaning (s : List Char) : Meaning :=
  let bare := s.filter (· ≠ '_')
  match int? bare with
  | some n => .int n
  | none =>
    match float? bare with
    | some x => .float x
    | none => .text

/-- What a number that starts with its point looks like: underscores stand between digits only. -/
def fractionMeaning (s : List Char) : Meaning :=
  if !Integer.gapsOk false .start s then .text
  else
    match float? (s.filter (· ≠ '_')) with
    | some x => .float x
    | none => .text

/-- What a text looks like. -/
def look (s : String) : Meaning :=
  if nullWords.contains s then .null
  else if ["true", "True", "TRUE"].contains s then .bool true
  else if ["false", "False", "FALSE"].contains s then .bool false
  else
    match namedFloat? s with
    | some x => .float x
    | none =>
      match s.toList with
      | [] => .text
      | c :: rest =>
        if c.isDigit || c = '+' || c = '-' then numberMeaning (c :: rest)
        else if c = '.' then fractionMeaning (c :: rest)
        else .text

/-- The meaning of a scalar; the tag must fit. -/
def meaning (tag : Option String) (text : String) (plain : Bool) : Except Error Meaning :=
  let wrong : Except Error Meaning := .error ⟨"the text does not fit its tag"⟩
  match tag, look text with
  | none, m => .ok (if plain then m else .text)
  | some "!!null", .null => .ok .null
  | some "!!null", _ => wrong
  | some "!!bool", .bool b => .ok (.bool b)
  | some "!!bool", _ => wrong
  | some "!!int", .int n => .ok (.int n)
  | some "!!int", _ => wrong
  | some "!!float", .float x => .ok (.float x)
  | some "!!float", .int n => if Integer.fits n then .ok (.float (Binary.ofInt n)) else wrong
  | some "!!float", _ => wrong
  | some "!!timestamp", _ => if Timestamp.isTimestamp text.toList then .ok .time else wrong
  | some _, _ => .ok .text

/-! ## Binary text -/

/-- The six bits that a character of binary text stands for. -/
def sixBits? (c : Char) : Option Nat :=
  if 'A' ≤ c && c ≤ 'Z' then some (c.toNat - 65)
  else if 'a' ≤ c && c ≤ 'z' then some (c.toNat - 71)
  else if c.isDigit then some (c.toNat + 4)
  else if c = '+' then some 62
  else if c = '/' then some 63
  else none

/-- The bytes that groups of four characters spell; only the last group may be filled up. -/
def bytesOfBase64 : List Char → Option (List UInt8)
  | [] => some []
  | [a, b, '=', '='] => do
    let a ← sixBits? a
    let b ← sixBits? b
    pure [UInt8.ofNat (a * 4 + b / 16)]
  | [a, b, c, '='] => do
    let a ← sixBits? a
    let b ← sixBits? b
    let c ← sixBits? c
    pure [UInt8.ofNat (a * 4 + b / 16), UInt8.ofNat (b % 16 * 16 + c / 4)]
  | a :: b :: c :: d :: rest => do
    let a ← sixBits? a
    let b ← sixBits? b
    let c ← sixBits? c
    let d ← sixBits? d
    let tail ← bytesOfBase64 rest
    pure (UInt8.ofNat (a * 4 + b / 16) :: UInt8.ofNat (b % 16 * 16 + c / 4) ::
      UInt8.ofNat (c % 4 * 64 + d) :: tail)
  | _ => none

/-- The text of a scalar in a text field: as written, or decoded if it is tagged as binary. -/
def scalarText (tag : Option String) (text : String) : Except Error Loose :=
  if tag = some "!!binary" then
    match bytesOfBase64 (text.toList.filter fun c => c ≠ '\n' && c ≠ '\r') with
    | some bytes => .ok (Loose.ofBytes bytes)
    | none => .error ⟨"!!binary value contains invalid base64 data"⟩
  else .ok (Loose.ofString text)

end CallCoupling.Yaml
