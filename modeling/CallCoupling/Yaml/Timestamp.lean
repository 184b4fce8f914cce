import CallCoupling.Number.Integer

/-!
# Timestamps

A timestamp is a date, alone or with a time of day.  Behind a `T` a time of day ends with its zone; behind a
space it has none.  Only the year has a fixed number of digits, and the day must exist.
-/

set_option autoImplicit false

namespace CallCoupling.Yaml.Timestamp

/-- The value of a digit. -/
def digit (c : Char) : Nat := c.toNat - 48

/-- One or two digits in front, and the rest. -/
def number? : List Char → Option (Nat × List Char)
  | a :: b :: rest =>
    if !a.isDigit then none
    else if b.isDigit then some (digit a * 10 + digit b, rest)
    else some (digit a, b :: rest)
  | [a] => if a.isDigit then some (digit a, []) else none
  | [] => none

/-- One or two digits in front that stay below a limit. -/
def below? (limit : Nat) (s : List Char) : Option (List Char) :=
  match number? s with
  | some (n, rest) => if n < limit then some rest else none
  | none => none

/-- The rest after a character. -/
def after? (c : Char) : List Char → Option (List Char)
  | x :: rest => if x = c then some rest else none
  | [] => none

/-- Has a year a 29th of February? -/
def isLeap (year : Nat) : Bool := year % 4 = 0 && (year % 100 ≠ 0 || year % 400 = 0)

/-- The number of days in a month. -/
def daysIn (year month : Nat) : Nat :=
  if month = 2 then (if isLeap year then 29 else 28)
  else if [4, 6, 9, 11].contains month then 30
  else 31

/-- Pass a date: four digits of the year, the month and the day. -/
def date? (s : List Char) : Option (List Char) := do
  let year := s.takeWhile Char.isDigit
  if year.length ≠ 4 then none
  else
    let rest ← after? '-' (s.drop 4)
    let (month, rest) ← number? rest
    let rest ← after? '-' rest
    let (day, rest) ← number? rest
    let year := year.foldl (fun n c => n * 10 + digit c) 0
    if 1 ≤ month && month ≤ 12 && 1 ≤ day && day ≤ daysIn year month then some rest else none

/-- Pass the fraction of a second, if there is one. -/
def dropFraction : List Char → List Char
  | c :: d :: rest =>
    if (c = '.' || c = ',') && d.isDigit then rest.dropWhile Char.isDigit else c :: d :: rest
  | s => s

/-- Pass hours, minutes and seconds. -/
def clock? (s : List Char) : Option (List Char) := do
  let s ← below? 24 s
  let s ← below? 60 (← after? ':' s)
  let s ← below? 60 (← after? ':' s)
  some (dropFraction s)

/-- Is a text a zone?  An offset of a full day, or of sixty minutes, is one too. -/
def isZone : List Char → Bool
  | ['Z'] => true
  | [sign, a, b, ':', c, d] =>
    (sign = '+' || sign = '-') && [a, b, c, d].all Char.isDigit && digit a * 10 + digit b ≤ 24 &&
      digit c * 10 + digit d ≤ 60
  | _ => false

/-- Is a text a timestamp? -/
def isTimestamp (s : List Char) : Bool :=
  match date? s with
  | none => false
  | some [] => true
  | some (mark :: rest) =>
    if mark = 'T' || mark = 't' then ((clock? rest).map isZone).getD false
    else if mark = ' ' then ((clock? (rest.dropWhile (· = ' '))).map List.isEmpty).getD false
    else false

end CallCoupling.Yaml.Timestamp
