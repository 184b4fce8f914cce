import CallCoupling.Text.Letters
import CallCoupling.Web.Percent

/-!
# Numeric hosts

A host in brackets is an address of eight groups of hexadecimal digits with colons between them, and
perhaps a zone.  Two colons stand once for one or more groups of zeros, and four decimal numbers with
points between them may stand for the last two groups.  A zone is any text behind a percent sign, which is
itself spelled by number.
-/

set_option autoImplicit false

namespace CallCoupling.NumericHost

/-- Is this a group: one to four hexadecimal digits? -/
def isGroup (s : List Char) : Bool :=
  !s.isEmpty && s.length ≤ 4 && s.all fun c => (Percent.digit? (UInt8.ofNat c.toNat)).isSome && c.toNat < 0x80

/-- Is this a number up to 255, in decimal without zeros in front? -/
def isOctet (s : List Char) : Bool :=
  !s.isEmpty && s.all Char.isDigit && (s.length = 1 || s.head? ≠ some '0') && s.length ≤ 3 &&
    s.foldl (fun n c => n * 10 + (c.toNat - 48)) 0 ≤ 255

/-- Are these four decimal numbers with points between them? -/
def isQuad (s : List Char) : Bool :=
  let octets := Text.splitOn '.' s
  octets.length = 4 && octets.all isOctet

/-- How many groups fields stand for, the last of which may be four decimal numbers. -/
def groups? : List (List Char) → Option Nat
  | [] => some 0
  | [field] => if isGroup field then some 1 else if isQuad field then some 2 else none
  | field :: rest => if isGroup field then (groups? rest).map (· + 1) else none

/-- The fields between colons; an empty text has none. -/
def fields (s : List Char) : List (List Char) := if s.isEmpty then [] else Text.splitOn ':' s

/-- The text before the first two colons in a row and the text after them. -/
def splitGap? : List Char → Option (List Char × List Char)
  | ':' :: ':' :: rest => some ([], rest)
  | c :: rest => (splitGap? rest).map fun (a, b) => (c :: a, b)
  | [] => none

/-- Is this a numeric host without a zone? -/
def isAddress (s : List Char) : Bool :=
  match splitGap? s with
  | none => groups? (fields s) = some 8
  | some (before, after) =>
    (fields before).all isGroup &&
      (match groups? (fields after) with
        | some n => (fields before).length + n ≤ 7
        | none => false)

/-- The text before a zone and the zone with its sign in front, both as they are spelled. -/
def splitZone? : List Char → Option (List Char × List Char)
  | '%' :: '2' :: '5' :: rest => some ([], '%' :: '2' :: '5' :: rest)
  | c :: rest => (splitZone? rest).map fun (a, b) => (c :: a, b)
  | [] => none

/-- The bytes of a zone.  Of what is spelled by number only the percent sign, the blank and what may stand
for itself are allowed. -/
def zoneBytes? : List UInt8 → Option (List UInt8)
  | [] => some []
  | b :: rest =>
    if b = 0x25 then
      match rest with
      | h :: l :: rest =>
        match Percent.digit? h, Percent.digit? l with
        | some high, some low =>
          let v := high * 16 + low
          if v = 0x25 || v = 0x20 || (v < 0x80 && Percent.keptInHost (Char.ofNat v.toNat)) then
            (zoneBytes? rest).map (v :: ·)
          else none
        | _, _ => none
      | _ => none
    else if b < 0x80 && !Percent.keptInHost (Char.ofNat b.toNat) then none
    else (zoneBytes? rest).map (b :: ·)

/-- What stands between the brackets; `none` if it is no numeric host. -/
def decode? (s : List Char) : Option Loose :=
  match splitZone? s with
  | none => if isAddress s then some (s.map .char) else none
  | some (host, zone) =>
    if isAddress host then
      match zoneBytes? (Percent.bytesOf (String.ofList zone)) with
      | some bytes => if bytes.length ≤ 1 then none else some (host.map .char ++ Loose.ofBytes bytes)
      | none => none
    else none

end CallCoupling.NumericHost
