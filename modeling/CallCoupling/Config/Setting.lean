import CallCoupling.Number.Decimal
import CallCoupling.Number.Integer

/-!
# Settings

A setting is a value from one of the layers of the configuration: a file, the environment or the command
line.  Layers spell values differently, so a value is read leniently into the field that it is for: numbers
and truth values may be texts and the other way round.
-/

set_option autoImplicit false

namespace CallCoupling

/-- A value of a setting, or a group of settings. -/
inductive Setting where
  | text (s : String)
  | int (n : Int)
  | float (x : Binary)
  | bool (b : Bool)
  /-- A date or a time. -/
  | moment
  | list (items : List Setting)
  | group (fields : List (String × Setting))
deriving Inhabited

namespace Setting

/-- The field of a name. -/
def find? (fields : List (String × Setting)) (name : String) : Option Setting :=
  (fields.find? fun (k, _) => k = name).map (·.2)

/-- Set a field in place, or append it. -/
def set (name : String) (v : Setting) : List (String × Setting) → List (String × Setting)
  | [] => [(name, v)]
  | (k, w) :: rest => if k = name then (name, v) :: rest else (k, w) :: set name v rest

mutual

/-- A layer laid over another: groups merge, and any other value hides what is below. -/
def covering : Setting → Setting → Setting
  | .group upper, .group lower => .group (overFields upper lower)
  | v, _ => v

/-- The fields of a layer laid over others. -/
def overFields : List (String × Setting) → List (String × Setting) → List (String × Setting)
  | [], lower => lower
  | (k, v) :: rest, lower =>
    overFields rest <|
      match find? lower k with
      | some w => set k (v.covering w) lower
      | none => lower ++ [(k, v)]

end

/-- A value under a path of names. -/
def nested : List String → Setting → Setting
  | [], v => v
  | name :: rest, v => .group [(name, nested rest v)]

mutual

/-- The dotted names of all groups and values in a setting, itself being called `name`. -/
def names (name : String) : Setting → List String
  | .group fields => name :: fieldNames (name ++ ".") fields
  | _ => [name]

/-- The dotted names of fields, each after `start`. -/
def fieldNames (start : String) : List (String × Setting) → List String
  | [] => []
  | (k, v) :: rest => names (start ++ k) v ++ fieldNames start rest

end

/-- Is there a group or a value of a dotted name? -/
def holds (s : Setting) (name : String) : Bool :=
  match s with
  | .group fields => (fieldNames "" fields).contains name
  | _ => false

/-- A setting as text: numbers in decimal, truth as `1` and falsehood as `0`. -/
def text? : Setting → Option String
  | .text s => some s
  | .int n => some (Integer.text n)
  | .float x => some (Layout.full.render x)
  | .bool b => some (if b then "1" else "0")
  | _ => none

/-- A number cut toward zero; what does not fit is the least number. -/
def wholePart : Binary → Int
  | .finite negative mantissa exponent =>
    let n := Binary.truncate negative mantissa exponent
    if Integer.fits n then n else Integer.least
  | _ => Integer.least

/-- A setting as a whole number; an empty text is zero. -/
def int? : Setting → Option Int
  | .int n => some n
  | .float x => some (wholePart x)
  | .bool b => some (if b then 1 else 0)
  | .text s => if s = "" then some 0 else (Integer.parse s).toOption
  | _ => none

/-- Is a number zero? -/
def isZero : Binary → Bool
  | .finite _ mantissa _ => mantissa = 0
  | _ => false

/-- A setting as a truth value; an empty text is false, and a number is true unless it is zero. -/
def bool? : Setting → Option Bool
  | .bool b => some b
  | .int n => some (n ≠ 0)
  | .float x => some (!isZero x)
  | .text s => if s = "" then some false else Truth.parse? s
  | _ => none

end Setting

end CallCoupling
