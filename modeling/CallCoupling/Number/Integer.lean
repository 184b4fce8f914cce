/-!
# Whole numbers and truth values as text

A whole number of a setting may be written in decimal, or with a base in front (`0x`, `0o`, `0b`, or a
plain `0` for octal), and may have underscores between digits.  All whole numbers are 64 bits wide with
a sign.  A number is read from left to right, so a text that grows too large before its first wrong
character is too large, and wrong otherwise.
-/

set_option autoImplicit false

namespace CallCoupling

/-- Why a text is no whole number. -/
inductive IntegerError where
  /-- The text is not spelled like a number. -/
  | spelling
  /-- The number does not fit 64 bits. -/
  | range
deriving DecidableEq, Repr

namespace IntegerError

/-- The text of the error. -/
def message : IntegerError → String
  | .spelling => "invalid syntax"
  | .range => "value out of range"

end IntegerError

namespace Integer

/-- The least whole number. -/
def least : Int := -9223372036854775808

/-- The greatest whole number. -/
def greatest : Int := 9223372036854775807

/-- Does a number fit 64 bits with a sign? -/
def fits (n : Int) : Bool := least ≤ n && n ≤ greatest

/-- The value of a digit or letter, up to base 36. -/
def digitValue? (c : Char) : Option Nat :=
  if '0' ≤ c && c ≤ '9' then some (c.toNat - 48)
  else if 'a' ≤ c && c ≤ 'z' then some (c.toNat - 87)
  else if 'A' ≤ c && c ≤ 'Z' then some (c.toNat - 55)
  else none

/-- Read digits of a base after the digits that gave `n`; `gaps` admits underscores. -/
def readDigits (base : Nat) (gaps : Bool) : Nat → List Char → Except IntegerError Nat
  | n, [] => .ok n
  | n, c :: cs =>
    if gaps && c = '_' then readDigits base gaps n cs
    else
      match digitValue? c with
      | none => .error .spelling
      | some d =>
        if d ≥ base then .error .spelling
        else if n * base + d ≥ 18446744073709551616 then .error .range
        else readDigits base gaps (n * base + d) cs

/-- What stands before the next character, as far as underscores are concerned. -/
inductive Before where
  | start | digit | underscore | other
deriving DecidableEq

/-- Underscores stand only between digits, or between the base and a digit. -/
def gapsOk (hexadecimal : Bool) : Before → List Char → Bool
  | b, [] => b ≠ .underscore
  | b, c :: cs =>
    if c.isDigit || (hexadecimal && ('a' ≤ c.toLower && c.toLower ≤ 'f')) then
      gapsOk hexadecimal .digit cs
    else if c = '_' then b = .digit && gapsOk hexadecimal .underscore cs
    else b ≠ .underscore && gapsOk hexadecimal .other cs

/-- The base in front of the digits, the digits, and whether underscores stand well. -/
def baseOf : List Char → Nat × List Char × Bool
  | s@('0' :: b :: d :: rest) =>
    match b.toLower with
    | 'b' => (2, d :: rest, gapsOk false .digit (d :: rest))
    | 'o' => (8, d :: rest, gapsOk false .digit (d :: rest))
    | 'x' => (16, d :: rest, gapsOk true .digit (d :: rest))
    | _ => (8, b :: d :: rest, gapsOk false .start s)
  | s@('0' :: rest) => (8, rest, gapsOk false .start s)
  | s => (10, s, gapsOk false .start s)

/-- The sign of a number and the rest. -/
def signOf : List Char → Bool × List Char
  | '-' :: rest => (true, rest)
  | '+' :: rest => (false, rest)
  | s => (false, s)

/-- A magnitude with its sign, if it fits. -/
def signed (negative : Bool) (n : Nat) : Except IntegerError Int :=
  if negative then (if n ≤ 9223372036854775808 then .ok (-(n : Int)) else .error .range)
  else if n < 9223372036854775808 then .ok n else .error .range

/-- A whole number with an optional base in front. -/
def parse (s : String) : Except IntegerError Int :=
  let (negative, body) := signOf s.toList
  if body.isEmpty then .error .spelling
  else
    let (base, digits, gapsFine) := baseOf body
    match readDigits base true 0 digits with
    | .error e => .error e
    | .ok n => if gapsFine then signed negative n else .error .spelling

/-- A whole number in decimal. -/
def parseDecimal (s : String) : Except IntegerError Int :=
  let (negative, body) := signOf s.toList
  if body.isEmpty then .error .spelling
  else
    match readDigits 10 false 0 body with
    | .error e => .error e
    | .ok n => signed negative n

/-- The decimal text of a whole number. -/
def text (n : Int) : String :=
  if n < 0 then "-" ++ String.ofList (Nat.toDigits 10 n.natAbs)
  else String.ofList (Nat.toDigits 10 n.natAbs)

end Integer

namespace Truth

/-- The spellings of a truth value. -/
def parse? (s : String) : Option Bool :=
  if ["1", "t", "T", "true", "TRUE", "True"].contains s then some true
  else if ["0", "f", "F", "false", "FALSE", "False"].contains s then some false
  else none

end Truth

end CallCoupling
