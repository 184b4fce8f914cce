/-!
# Letter case, blanks and words

Keywords and field names are compared without regard to case.  The words compared are ASCII, so
only two characters outside ASCII matter when a text is lowered (the dotted capital I and the
kelvin sign), and only two when a field name is folded (the long s and the kelvin sign).
-/

set_option autoImplicit false

namespace CallCoupling.Text

/-- The capital I with a dot, whose lower case is the ASCII letter. -/
def dottedI : Char := Char.ofNat 0x130

/-- The kelvin sign, another capital K. -/
def kelvin : Char := Char.ofNat 0x212A

/-- The long s, another small s. -/
def longS : Char := Char.ofNat 0x17F

/-- Lower case as far as it can produce an ASCII letter. -/
def lowerChar (c : Char) : Char :=
  if c = dottedI then 'i' else if c = kelvin then 'k' else c.toLower

/-- A text in lower case. -/
def lower (s : String) : String := String.ofList (s.toList.map lowerChar)

/-- The representative of a character among those that differ only by case, as far as it is an
ASCII letter. -/
def foldChar (c : Char) : Char :=
  if c = longS then 's' else if c = kelvin then 'k' else c.toLower

/-- Do two names differ at most by letter case? -/
def sameName (a b : String) : Bool := a.toList.map foldChar == b.toList.map foldChar

/-- White space: the ASCII blanks and line ends, and the blanks of other scripts. -/
def isBlank (c : Char) : Bool :=
  let n := c.toNat
  (9 ≤ n && n ≤ 13) || n == 0x20 || n == 0x85 || n == 0xA0 || n == 0x1680 ||
    (0x2000 ≤ n && n ≤ 0x200A) || n == 0x2028 || n == 0x2029 || n == 0x202F || n == 0x205F ||
    n == 0x3000

/-- A text without the blanks at both ends. -/
def trim (s : String) : String :=
  String.ofList ((((s.toList.dropWhile isBlank).reverse).dropWhile isBlank).reverse)

/-- What is left of `s` after `start`, if it starts so. -/
def dropStart? : List Char → List Char → Option (List Char)
  | [], s => some s
  | _ :: _, [] => none
  | p :: ps, c :: cs => if p = c then dropStart? ps cs else none

/-- Does `s` start with `start`? -/
def startsWith (s start : String) : Bool := (dropStart? start.toList s.toList).isSome

/-- Does `s` end with `stop`? -/
def endsWith (s stop : String) : Bool :=
  (dropStart? stop.toList.reverse s.toList.reverse).isSome

/-- The text `s` without `start` in front, or `s` itself if it does not start so. -/
def dropStart (start s : String) : String :=
  match dropStart? start.toList s.toList with
  | some rest => String.ofList rest
  | none => s

/-- The text `s` without `stop` at the end, or `s` itself if it does not end so. -/
def dropEnd (stop s : String) : String :=
  match dropStart? stop.toList.reverse s.toList.reverse with
  | some rest => String.ofList rest.reverse
  | none => s

/-- The pieces between separators; there is always at least one. -/
def splitOn (sep : Char) : List Char → List (List Char)
  | [] => [[]]
  | c :: cs =>
    if c = sep then [] :: splitOn sep cs
    else
      match splitOn sep cs with
      | [] => [[c]]
      | piece :: rest => (c :: piece) :: rest

/-- The lines of a text. -/
def lines (s : String) : List String := (splitOn '\n' s.toList).map String.ofList

/-- So many copies of a character. -/
def repeated (n : Nat) (c : Char) : String := String.ofList (List.replicate n c)

/-- The text up to the first separator and the text after it. -/
def splitFirst? (sep : Char) : List Char → Option (List Char × List Char)
  | [] => none
  | c :: cs => if c = sep then some ([], cs) else (splitFirst? sep cs).map fun (a, b) => (c :: a, b)

end CallCoupling.Text
