/-!
# Binary floating point numbers

A `Binary` is a number `mantissa · 2 ^ exponent` with a mantissa below `2 ^ 53` and an exponent of at
least -1074, an infinity, or no number at all.  All arithmetic is exact arithmetic on fractions
followed by one rounding, `Binary.ofRatio`: to the nearest number of the format, and to the one with
an even mantissa when two are equally near.
-/

set_option autoImplicit false

namespace CallCoupling

/-- A number of the 64-bit binary format. -/
inductive Binary where
  | finite (negative : Bool) (mantissa : Nat) (exponent : Int)
  | infinite (negative : Bool)
  | nan
deriving DecidableEq, Repr, Inhabited

namespace Binary

/-- The quotient of two numbers rounded to the nearest whole number, a half to the even neighbour. -/
def divNearest (num den : Nat) : Nat :=
  let q := num / den
  let r := num % den
  if 2 * r < den then q
  else if 2 * r = den then (if q % 2 = 0 then q else q + 1)
  else q + 1

/-- The least exponent of the format. -/
def minExponent : Int := -1074

/-- The greatest exponent of the format. -/
def maxExponent : Int := 971

/-- The ratio `num / den` divided by `2 ^ e` and rounded. -/
def scaled (num den : Nat) (e : Int) : Nat :=
  divNearest (num * Nat.pow 2 (-e).toNat) (den * Nat.pow 2 e.toNat)

/-- The exponent that gives `num / den` a mantissa of 53 bits, as far as the format has it. -/
def exponentFor (num den : Nat) : Int :=
  let e : Int := (num.log2 : Int) - (den.log2 : Int) - 52
  -- The quotient of the leading bits may be one bit short.
  let e := if num * Nat.pow 2 (-e).toNat < den * Nat.pow 2 e.toNat * Nat.pow 2 52 then e - 1 else e
  max e minExponent

/-- The number of the format nearest to `num / den`. -/
def ofRatio (negative : Bool) (num den : Nat) : Binary :=
  if den = 0 then (if num = 0 then .nan else .infinite negative)
  else if num = 0 then .finite negative 0 minExponent
  else
    let e := exponentFor num den
    let m := scaled num den e
    let (m, e) := if m = Nat.pow 2 53 then (Nat.pow 2 52, e + 1) else (m, e)
    if e > maxExponent then .infinite negative else .finite negative m e

/-- The number of the format nearest to a whole number. -/
def ofInt (n : Int) : Binary := ofRatio (n < 0) n.natAbs 1

/-- The number of the format nearest to `digits · 10 ^ exponent`. -/
def ofDecimal (negative : Bool) (digits : Nat) (exponent : Int) : Binary :=
  -- Past these exponents the value is an infinity or zero whatever the digits are.
  let length : Int := if digits = 0 then 0 else ((Nat.toDigits 10 digits).length : Int)
  if digits = 0 then ofRatio negative 0 1
  else if exponent + length > 400 then .infinite negative
  else if exponent + length < -400 then ofRatio negative 0 1
  else ofRatio negative (digits * Nat.pow 10 exponent.toNat) (Nat.pow 10 (-exponent).toNat)

/-- The magnitude of a finite number as a fraction. -/
def ratio (mantissa : Nat) (exponent : Int) : Nat × Nat :=
  (mantissa * Nat.pow 2 exponent.toNat, Nat.pow 2 (-exponent).toNat)

/-- The whole number next to a finite number in the direction of zero. -/
def truncate (negative : Bool) (mantissa : Nat) (exponent : Int) : Int :=
  let (num, den) := ratio mantissa exponent
  if negative then -((num / den : Nat) : Int) else ((num / den : Nat) : Int)

end Binary

end CallCoupling
