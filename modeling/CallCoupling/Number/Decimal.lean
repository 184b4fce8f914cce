import CallCoupling.Number.Binary

/-!
# Decimal text of binary numbers

A number is written with the fewest significant digits that read back as the same number, and of
those with the nearest ones.  `Digits.shortest` finds them by exact arithmetic: a decimal reads back as
the number exactly if it lies in the interval halfway to the two neighbouring numbers.  `Layout` then
says where positional notation ends and how an exponent is written.
-/

set_option autoImplicit false

namespace CallCoupling

/-- Significant digits with the place of the point: the value is `0.d₁d₂… · 10 ^ point`. -/
structure Digits where
  digits : List Char
  point : Int
deriving DecidableEq, Repr

namespace Digits

/-- Twice the distances matter, so the interval is kept in quarters of the last binary place: lower
end, value and upper end, each to be multiplied by `2 ^ (exponent - 2)`. -/
def quarters (mantissa : Nat) (exponent : Int) : Nat × Nat × Nat :=
  -- Below a power of two the numbers lie twice as close.
  let below := if mantissa = Nat.pow 2 52 && exponent > Binary.minExponent then 1 else 2
  (4 * mantissa - below, 4 * mantissa, 4 * mantissa + 2)

/-- The largest power of ten that is at most `num / den`, for a positive fraction, searched among
those below `10 ^ fuel` steps from the start. -/
def magnitude (num den : Nat) : Nat → Int → Int
  | 0, p => p
  | fuel + 1, p =>
    if num * Nat.pow 10 (-p).toNat < den * Nat.pow 10 p.toNat then magnitude num den fuel (p - 1)
    else if num * Nat.pow 10 (-(p + 1)).toNat ≥ den * Nat.pow 10 (p + 1).toNat then magnitude num den fuel (p + 1)
    else p

/-- Is `c · 10 ^ g` strictly between `lo · 2 ^ q` and `hi · 2 ^ q`, or at an end if ends count? -/
def inside (ends : Bool) (lo hi : Nat) (q : Int) (c : Nat) (g : Int) : Bool :=
  let a := c * Nat.pow 10 g.toNat * Nat.pow 2 (-q).toNat
  let scale := Nat.pow 10 (-g).toNat * Nat.pow 2 q.toNat
  if ends then lo * scale ≤ a && a ≤ hi * scale else lo * scale < a && a < hi * scale

/-- The decimal on the grid `10 ^ g` that reads back as the number, the nearer one if both neighbours
on the grid do. -/
def onGrid (mantissa : Nat) (exponent : Int) (g : Int) : Option Nat :=
  let (lo, mid, hi) := quarters mantissa exponent
  let q := exponent - 2
  let num := mid * Nat.pow 2 q.toNat * Nat.pow 10 (-g).toNat
  let den := Nat.pow 2 (-q).toNat * Nat.pow 10 g.toNat
  let down := num / den
  let ends := mantissa % 2 = 0
  let okDown := down ≠ 0 && inside ends lo hi q down g
  let okUp := inside ends lo hi q (down + 1) g
  if okDown && okUp then some (Binary.divNearest num den)
  else if okDown then some down
  else if okUp then some (down + 1)
  else none

/-- The first grid with a hit, from coarse to fine. -/
def search (mantissa : Nat) (exponent : Int) : Nat → Int → Nat × Int
  | 0, g => ((onGrid mantissa exponent g).getD 0, g)
  | fuel + 1, g =>
    match onGrid mantissa exponent g with
    | some c => (c, g)
    | none => search mantissa exponent fuel (g - 1)

/-- The digits of a number and the place of the point, without zeros at the end. -/
def ofGrid (c : Nat) (g : Int) : Digits :=
  let all := Nat.toDigits 10 c
  let kept := (all.reverse.dropWhile (· = '0')).reverse
  { digits := kept, point := g + (all.length : Int) }

/-- The fewest digits that read back as `mantissa · 2 ^ exponent`, for a mantissa that is not zero. -/
def shortest (mantissa : Nat) (exponent : Int) : Digits :=
  let (num, den) := Binary.ratio mantissa exponent
  let start : Int := ((num.log2 : Int) - (den.log2 : Int)) * 3 / 10
  let p := magnitude num den 400 start
  let (c, g) := search mantissa exponent 17 p
  ofGrid c g

end Digits

/-- How numbers are laid out. -/
structure Layout where
  /-- The least power of ten that is written positionally. -/
  least : Int
  /-- The first power of ten that is written with an exponent; `none` if none is. -/
  past : Option Int
  /-- The least number of digits of a negative exponent. -/
  negativeWidth : Nat
  /-- The least number of digits of a positive exponent. -/
  positiveWidth : Nat

namespace Layout

/-- Numbers in data: positional from a millionth up to the twenty-first power of ten. -/
def data : Layout := ⟨-6, some 21, 1, 2⟩

/-- Numbers shown to a reader: positional from a ten thousandth up to a million. -/
def shown : Layout := ⟨-4, some 6, 2, 2⟩

/-- A number always written out in full. -/
def full : Layout := ⟨-400, none, 1, 1⟩

/-- A number with zeros in front up to a width. -/
def padded (width n : Nat) : List Char :=
  let ds := Nat.toDigits 10 n
  List.replicate (width - ds.length) '0' ++ ds

/-- Positional notation. -/
def positional (d : Digits) : List Char :=
  if d.point ≤ 0 then '0' :: '.' :: List.replicate (-d.point).toNat '0' ++ d.digits
  else
    let k := d.point.toNat
    if d.digits.length ≤ k then d.digits ++ List.replicate (k - d.digits.length) '0'
    else d.digits.take k ++ '.' :: d.digits.drop k

/-- One digit, the point, the other digits and the exponent. -/
def scientific (l : Layout) (d : Digits) : List Char :=
  let e := d.point - 1
  let tail := if e < 0 then 'e' :: '-' :: padded l.negativeWidth e.natAbs
    else 'e' :: '+' :: padded l.positiveWidth e.natAbs
  match d.digits with
  | [] => '0' :: tail
  | [c] => c :: tail
  | c :: cs => c :: '.' :: cs ++ tail

/-- The text of a number. -/
def render (l : Layout) : Binary → String
  | .nan => "NaN"
  | .infinite negative => if negative then "-Inf" else "+Inf"
  | .finite negative mantissa exponent =>
    let body :=
      if mantissa = 0 then ['0']
      else
        let d := Digits.shortest mantissa exponent
        let e := d.point - 1
        let outside := e < l.least || (match l.past with | some p => p ≤ e | none => false)
        if outside then l.scientific d else positional d
    String.ofList (if negative then '-' :: body else body)

end Layout

end CallCoupling
