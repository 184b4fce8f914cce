import CallCoupling.Text.Terminal

/-!
# Styles and links

A control sequence with the final byte `m` sets how the text behind it is shown.  `Style.read` takes its
parameters in order, and `Style.sequence` writes one sequence that sets a whole style.  A link is set by a
command for the operating system.
-/

set_option autoImplicit false

namespace CallCoupling.Terminal

/-- A colour. -/
inductive Colour where
  /-- One of the sixteen named colours. -/
  | named (n : Nat)
  /-- A place in the palette. -/
  | indexed (n : Nat)
  | rgb (r g b : Nat)
deriving DecidableEq, Repr

/-- A parameter of a sequence. -/
structure Param where
  /-- The number, if one is given. -/
  given : Option Nat := none
  /-- Does the next parameter belong to this one? -/
  joined : Bool := false
deriving DecidableEq, Repr, Inhabited

namespace Param

/-- The number of a parameter; zero if none is given. -/
def value (p : Param) : Nat := p.given.getD 0

end Param

/-- How text is shown. -/
structure Style where
  bold : Bool := false
  faint : Bool := false
  italic : Bool := false
  slowBlink : Bool := false
  rapidBlink : Bool := false
  reverse : Bool := false
  conceal : Bool := false
  struck : Bool := false
  /-- The kind of line below the text; zero for none. -/
  underline : Nat := 0
  foreground : Option Colour := none
  background : Option Colour := none
  underlineColour : Option Colour := none
deriving DecidableEq, Repr, Inhabited

namespace Colour

/-- A number in a byte. -/
def byte (p : Param) : Nat := p.value % 256

/-- The colour that parameters give behind the one that asks for it, and how many parameters that takes.
All of them are joined, or none is. -/
def read? (ask : Param) : List Param → Option (Option Colour × Nat)
  | kind :: rest =>
    let same := ask.joined = kind.joined
    match kind.value, rest with
    | 0, _ => some (none, 1)
    | 1, _ => some (some (.rgb 0 0 0), 1)
    | 2, _ :: r :: g :: b :: _ =>
      if same && ask.joined && (rest.take 3).all (·.joined) && !b.joined then
        some (some (.rgb (byte r) (byte g) (byte b)), 5)
      else direct same rest
    | 2, _ => direct same rest
    | 5, n :: _ => if same && !n.joined then some (some (.indexed (byte n)), 2) else none
    | _, _ => none
  | [] => none
where
  /-- A colour of three parts. -/
  direct (same : Bool) : List Param → Option (Option Colour × Nat)
    | r :: g :: b :: _ =>
      if same && r.joined = ask.joined && g.joined = ask.joined && !b.joined then
        some (some (.rgb (byte r) (byte g) (byte b)), 4)
      else none
    | _ => none

/-- The text of a number. -/
def digits (n : Nat) : String := toString n

/-- The parameters that set a colour; `base` is the first of the eight plain ones. -/
def codes (base : Nat) : Colour → String
  | .named n => digits (if n < 8 then base + n else base + 52 + n)
  | .indexed n => digits (base + 8) ++ ";5;" ++ digits n
  | .rgb r g b => digits (base + 8) ++ ";2;" ++ digits r ++ ";" ++ digits g ++ ";" ++ digits b

end Colour

namespace Style

/-- The style of one parameter that stands for itself. -/
def set (s : Style) (n : Nat) : Style :=
  match n with
  | 0 => {}
  | 1 => { s with bold := true }
  | 2 => { s with faint := true }
  | 3 => { s with italic := true }
  | 4 => { s with underline := 1 }
  | 5 => { s with slowBlink := true }
  | 6 => { s with rapidBlink := true }
  | 7 => { s with reverse := true }
  | 8 => { s with conceal := true }
  | 9 => { s with struck := true }
  | 22 => { s with bold := false, faint := false }
  | 23 => { s with italic := false }
  | 24 => { s with underline := 0 }
  | 25 => { s with slowBlink := false, rapidBlink := false }
  | 27 => { s with reverse := false }
  | 28 => { s with conceal := false }
  | 29 => { s with struck := false }
  | 39 => { s with foreground := none }
  | 49 => { s with background := none }
  | 59 => { s with underlineColour := none }
  | n =>
    if 30 ≤ n && n ≤ 37 then { s with foreground := some (.named (n - 30)) }
    else if 40 ≤ n && n ≤ 47 then { s with background := some (.named (n - 40)) }
    else if 90 ≤ n && n ≤ 97 then { s with foreground := some (.named (n - 82)) }
    else if 100 ≤ n && n ≤ 107 then { s with background := some (.named (n - 92)) }
    else s

/-- The style with a colour where parameter `n` asks for one. -/
def paint (s : Style) (n : Nat) (c : Option Colour) : Style :=
  if n = 38 then { s with foreground := c }
  else if n = 48 then { s with background := c }
  else { s with underlineColour := c }

/-- Take parameters in order. -/
def readParams (s : Style) (ps : List Param) : Style :=
  match ps with
  | [] => s
  | p :: rest =>
    let n := p.value
    if n = 38 || n = 48 || n = 58 then
      match Colour.read? p rest with
      | some (c, taken) => readParams (s.paint n c) (rest.drop taken)
      | none => readParams s rest
    else
      match n = 4 && p.joined, rest.head? with
      | true, some q =>
        if q.value ≤ 5 then readParams { s with underline := q.value } (rest.drop 1)
        else readParams s rest
      | _, _ => readParams (s.set n) rest
termination_by ps.length
decreasing_by all_goals simp only [List.length_drop, List.length_cons]; omega

/-- The style after a sequence; one without parameters ends all styles. -/
def read (s : Style) (ps : List Param) : Style := if ps.isEmpty then {} else s.readParams ps

/-- Are blanks in this style no different from plain ones? -/
def leavesBlanks (s : Style) : Bool := !s.reverse && s.background.isNone && s.underline = 0

/-- The parameters that set a style. -/
def codes (s : Style) : List String :=
  let flag (b : Bool) (code : String) : List String := if b then [code] else []
  flag s.bold "1" ++ flag s.faint "2" ++ flag s.italic "3" ++ flag s.slowBlink "5" ++
    flag s.rapidBlink "6" ++ flag s.reverse "7" ++ flag s.conceal "8" ++ flag s.struck "9" ++
    (if s.underline = 0 then [] else if s.underline = 1 then ["4"]
      else ["4:" ++ Colour.digits s.underline]) ++
    (s.foreground.map (Colour.codes 30)).toList ++ (s.background.map (Colour.codes 40)).toList ++
    (s.underlineColour.map fun
      | .named n => "58;5;" ++ Colour.digits n
      | c => Colour.codes 50 c).toList

/-- The sequence that sets a style. -/
def sequence (s : Style) : String := "\x1b[" ++ ";".intercalate s.codes ++ "m"

/-- The sequence that ends all styles. -/
def reset : String := "\x1b[m"

end Style

/-- The target of a link, as the command gives it. -/
structure Link where
  params : List UInt8 := []
  target : List UInt8 := []
deriving DecidableEq, Inhabited

namespace Link

/-- The bytes of a text. -/
def bytesOf (s : String) : List UInt8 := (Loose.ofString s).toBytes

/-- The sequence that sets a link. -/
def sequence (l : Link) : List UInt8 :=
  bytesOf "\x1b]8;" ++ l.params ++ bytesOf ";" ++ l.target ++ [0x07]

end Link

end CallCoupling.Terminal
