import CallCoupling.Text.Loose
import CallCoupling.Text.Quoted

/-!
# Percent coding

An address spells bytes that it may not hold as a percent sign and two hexadecimal digits.  Decoding gives
bytes, which need not be text; encoding spells every byte of a character that is not kept.
-/

set_option autoImplicit false

namespace CallCoupling.Percent

/-- The value of a hexadecimal digit. -/
def digit? (b : UInt8) : Option UInt8 :=
  if 0x30 ≤ b && b ≤ 0x39 then some (b - 0x30)
  else if 0x61 ≤ b && b ≤ 0x66 then some (b - 0x61 + 10)
  else if 0x41 ≤ b && b ≤ 0x46 then some (b - 0x41 + 10)
  else none

/-- The bytes that a spelling stands for; `none` if a percent sign is not followed by two digits.  A plus
sign stands for a blank where `plus` says so. -/
def decodeBytes? (plus : Bool) : List UInt8 → Option (List UInt8)
  | [] => some []
  | b :: rest =>
    if b = 0x25 then
      match rest with
      | h :: l :: rest =>
        match digit? h, digit? l with
        | some h, some l => (decodeBytes? plus rest).map ((h * 16 + l) :: ·)
        | _, _ => none
      | _ => none
    else (decodeBytes? plus rest).map ((if plus && b = 0x2B then 0x20 else b) :: ·)

/-- The bytes of a text. -/
def bytesOf (s : String) : List UInt8 := (Loose.ofString s).toBytes

/-- What a spelling stands for. -/
def decode? (s : String) : Option Loose := (decodeBytes? false (bytesOf s)).map Loose.ofBytes

/-- What a spelling in a query stands for. -/
def decodeQuery? (s : String) : Option Loose := (decodeBytes? true (bytesOf s)).map Loose.ofBytes

/-- The spelling of a byte. -/
def spell (b : UInt8) : List Char := '%' :: (Text.hex 2 b.toNat).map Char.toUpper

/-- The spelling of a text in which some ASCII characters are kept. -/
def encode (keeps : Char → Bool) (t : Loose) : String :=
  String.ofList (t.flatMap fun
    | .char c => if c.toNat < 0x80 && keeps c then [c] else (String.utf8EncodeChar c).flatMap spell
    | .stray b => spell b)

/-- Letters, digits and the marks that are kept everywhere. -/
def isPlain (c : Char) : Bool := c.isAlphanum || "-_.~".toList.contains c

/-- The characters that separate the parts of an address. -/
def isSeparator (c : Char) : Bool := "$&+,/:;=?@".toList.contains c

/-- What is kept in a path. -/
def keptInPath (c : Char) : Bool := isPlain c || (isSeparator c && c ≠ '?')

/-- What is kept in a fragment. -/
def keptInFragment (c : Char) : Bool := isPlain c || isSeparator c || "!()*".toList.contains c

/-- What is kept in a user name or a password. -/
def keptInUser (c : Char) : Bool := isPlain c || (isSeparator c && !"@/?:".toList.contains c)

/-- What is kept in a host. -/
def keptInHost (c : Char) : Bool := isPlain c || "!$&'()*+,;=:[]<>\"".toList.contains c

/-- May a spelling stand as it is?  Marks that need not be spelled by number are allowed either way. -/
def isValid (keeps : Char → Bool) (s : String) : Bool :=
  s.toList.all fun c =>
    "!$&'()*+,;=:@[]%".toList.contains c || (c.toNat < 0x80 && keeps c)

/-- The spelling of a text: the given one if it is valid and spells the text, else the usual one. -/
def spelling (keeps : Char → Bool) (given : String) (t : Loose) : String :=
  if given ≠ "" && isValid keeps given && decode? given = some t then given else encode keeps t

end CallCoupling.Percent
