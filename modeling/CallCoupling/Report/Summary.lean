import CallCoupling.Report.Markdown

/-!
# The console summary

What a user sees after a run: the size of the project, the strongest couplings and the files written.  On a
terminal some lines are coloured; without colour the text is the same but for the marks.
-/

set_option autoImplicit false

namespace CallCoupling

/-- The figures of one run. -/
structure Summary where
  project : Name := []
  types : Int := 0
  methods : Int := 0
  invocations : Int := 0
  nodes : Int := 0
  ownNodes : Int := 0
  links : Int := 0
  pairs : List Pair := []
  dropped : Int := 0
  written : List String := []
deriving DecidableEq, Inhabited

/-- The ways in which a text is marked. -/
inductive Paint where
  | bold
  | green
  | yellow
  | cyan
deriving DecidableEq, Repr

namespace Paint

/-- The number that switches a mark on. -/
def onCode : Paint → String
  | .bold => "1"
  | .green => "32"
  | .yellow => "33"
  | .cyan => "36"

/-- The number that switches a mark off. -/
def offCode : Paint → String
  | .bold => "22"
  | _ => "0"

/-- An escape sequence for a number. -/
def sequence (code : String) : String := String.ofList [Char.ofNat 0x1B, '['] ++ code ++ "m"

/-- A marked text, if colours are on. -/
def apply (colours : Bool) (p : Paint) (s : Loose) : Loose :=
  if colours then Loose.join [sequence p.onCode, s, sequence p.offCode] else s

end Paint

namespace Summary

/-- A coupling in the list. -/
def pairLine (colours : Bool) (p : Pair) : Loose :=
  let names :=
    if p.a = p.b then Loose.join ["  ", p.a, " (self)"] else Loose.join ["  ", p.a, " <-> ", p.b]
  Loose.join [Paint.cyan.apply colours names, "  " ++ Integer.text p.strength ++ "\n"]

/-- The list of couplings. -/
def couplings (s : Summary) (top : Int) (colours : Bool) : Loose :=
  if s.pairs.isEmpty then
    Loose.join [Paint.green.apply colours "No coupling between project types", "\n"]
  else
    Loose.join [Paint.bold.apply colours "STRONGEST COUPLINGS:", "\n"] ++
      (strongest top s.pairs).flatMap (pairLine colours)

/-- What stands above the list of couplings: the project and its size. -/
def head (s : Summary) (colours : Bool) : Loose :=
  let n := Integer.text
  Loose.join
    [Paint.bold.apply colours "Class Coupling Analyzer - Summary", "\n",
      Paint.bold.apply colours "=================================", "\n",
      if s.project.isEmpty then [] else Loose.join ["Project: ", s.project, "\n"],
      "Scanned: " ++ n s.types ++ " types, " ++ n s.methods ++ " methods, " ++ n s.invocations ++
        " invocations\n",
      "Call graph: " ++ n s.nodes ++ " nodes (" ++ n s.ownNodes ++ " in project), " ++ n s.links ++
        " links\n\n"]

/-- What stands below it: the calls left out and the files written. -/
def foot (s : Summary) (colours : Bool) : Loose :=
  Loose.join
    ["\n",
      if s.dropped > 0 then
        Paint.yellow.apply colours
          ("Skipped: " ++ Integer.text s.dropped ++ " call(s) to types outside the project\n")
      else [],
      s.written.flatMap fun (path : String) => Paint.green.apply colours ("✓ Wrote " ++ path ++ "\n")]

/-- The text of a summary with at most `top` couplings. -/
def text (s : Summary) (top : Int) (colours : Bool) : Loose :=
  s.head colours ++ s.couplings top colours ++ s.foot colours

end Summary

end CallCoupling
