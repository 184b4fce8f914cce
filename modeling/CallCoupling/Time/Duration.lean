import CallCoupling.Number.Decimal
import CallCoupling.Number.Integer

/-!
# Durations

A duration is a whole number of nanoseconds.  It is written in the largest unit that leaves a digit
before the point, as hours, minutes and seconds from one second on, and always without zeros at the
end of a fraction.
-/

set_option autoImplicit false

namespace CallCoupling

/-- A length of time in nanoseconds. -/
structure Duration where
  nanoseconds : Int
deriving DecidableEq, Repr, Inhabited

namespace Duration

/-- The number of nanoseconds in a second. -/
def second : Nat := 1000000000

/-- Digits without the zeros at their end. -/
def withoutZeros (digits : List Char) : List Char := (digits.reverse.dropWhile (· = '0')).reverse

/-- The number `n` over ten to the power `places`, without zeros at the end of the fraction. -/
def fraction (n places : Nat) : String :=
  let whole := Integer.text (n / Nat.pow 10 places)
  match withoutZeros (Layout.padded places (n % Nat.pow 10 places)) with
  | [] => whole
  | digits => whole ++ "." ++ String.ofList digits

/-- The text of a length below one second. -/
def short (n : Nat) : String :=
  if n = 0 then "0s"
  else if n < 1000 then Integer.text n ++ "ns"
  else if n < 1000000 then fraction n 3 ++ "µs"
  else fraction n 6 ++ "ms"

/-- The text of a length of at least one second. -/
def long (n : Nat) : String :=
  let minutes := n / (60 * second)
  let seconds := fraction (n % (60 * second)) 9 ++ "s"
  if minutes = 0 then seconds
  else if minutes < 60 then Integer.text minutes ++ "m" ++ seconds
  else Integer.text (minutes / 60 : Nat) ++ "h" ++ Integer.text (minutes % 60 : Nat) ++ "m" ++ seconds

/-- The text of a duration. -/
def text (d : Duration) : String :=
  let n := d.nanoseconds.natAbs
  (if d.nanoseconds < 0 then "-" else "") ++ (if n < second then short n else long n)

/-- The whole milliseconds of a duration, rounded toward zero. -/
def milliseconds (d : Duration) : Int := d.nanoseconds.tdiv 1000000

end Duration

end CallCoupling
