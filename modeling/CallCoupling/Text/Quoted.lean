import CallCoupling.Text.Loose
import CallCoupling.Text.Printable

/-!
# Quoted text

Messages and log lines put names between quotes.  Inside them the quote and the backslash are
escaped, the common controls have a letter of their own, printable characters stand as they are, and
every other character is written by its number: two hexadecimal digits below U+0080, four below
U+10000, eight above.  A stray byte is written like a control.
-/

set_option autoImplicit false

namespace CallCoupling.Text

/-- The lower-case hexadecimal digit of a number below sixteen. -/
def hexDigit (n : Nat) : Char :=
  if n < 10 then Char.ofNat (48 + n) else Char.ofNat (87 + n)

/-- The last `width` hexadecimal digits of a number. -/
def hex : Nat → Nat → List Char
  | 0, _ => []
  | width + 1, n => hex width (n / 16) ++ [hexDigit (n % 16)]

/-- The letter that stands for a common control after a backslash. -/
def controlLetter? (c : Char) : Option Char :=
  match c.toNat with
  | 7 => some 'a'
  | 8 => some 'b'
  | 9 => some 't'
  | 10 => some 'n'
  | 11 => some 'v'
  | 12 => some 'f'
  | 13 => some 'r'
  | _ => none

/-- A character as it stands between two `quote`s. -/
def quotedChar (quote c : Char) : List Char :=
  if c = quote || c = '\\' then ['\\', c]
  else if isPrintable c then [c]
  else
    match controlLetter? c with
    | some letter => ['\\', letter]
    | none =>
      let n := c.toNat
      if n < 0x80 then '\\' :: 'x' :: hex 2 n
      else if n < 0x10000 then '\\' :: 'u' :: hex 4 n
      else '\\' :: 'U' :: hex 8 n

/-- A glyph as it stands between two `quote`s. -/
def quotedGlyph (quote : Char) : Glyph → List Char
  | .char c => quotedChar quote c
  | .stray b => '\\' :: 'x' :: hex 2 b.toNat

/-- Loose text between quotes. -/
def quotedLoose (t : Loose) : String :=
  String.ofList ('"' :: t.flatMap (quotedGlyph '"') ++ ['"'])

/-- A text between quotes. -/
def quoted (s : String) : String :=
  String.ofList ('"' :: s.toList.flatMap (quotedChar '"') ++ ['"'])

/-- A single character between apostrophes. -/
def quotedLetter (c : Char) : String :=
  String.ofList ('\'' :: quotedChar '\'' c ++ ['\''])

end CallCoupling.Text
