import CallCoupling.Failure
import CallCoupling.Text.Letters
import CallCoupling.Text.Quoted
import CallCoupling.Time.Duration
import CallCoupling.Time.Moment

/-!
# Log entries

An entry has a level, a message and attributes, which are named values.  A value has two texts: a
plain one, and a quoted one for values that stand for an error.  Whole numbers are quoted as the
characters that they number.

There are only the kinds of values below.  A group of attributes given as one value is none of them, nor is a
structured value of a type of its own: what a log shows of these is not described here, and what is proved of
logs says nothing about entries that hold one.
-/

set_option autoImplicit false

namespace CallCoupling.Log

/-! ## Values and attributes -/

/-- The value of an attribute. -/
inductive Value where
  | text (t : Loose)
  | whole (n : Int)
  | real (x : Binary)
  | truth (b : Bool)
  | duration (d : Duration)
  | time (t : Moment)
  /-- An error, known by its text. -/
  | error (message : Loose)
  | texts (items : List String)
  | wholes (items : List Int)
  | nothing
deriving DecidableEq, Inhabited

/-- A named value. -/
structure Attr where
  key : String
  value : Value
deriving DecidableEq, Inhabited

namespace Attr

/-- An attribute with a text. -/
def text (key : String) (value : Loose) : Attr := ⟨key, .text value⟩

/-- An attribute with a whole number. -/
def whole (key : String) (n : Int) : Attr := ⟨key, .whole n⟩

/-- An attribute without name and value says nothing and is never shown. -/
def isEmpty (a : Attr) : Bool := a.key = "" && a.value = .nothing

end Attr

/-- Items between square brackets. -/
def bracketed (items : List String) : String := "[" ++ " ".intercalate items ++ "]"

/-- Words for a truth value. -/
def truthText (b : Bool) : String := if b then "true" else "false"

/-- The character with a number; a number of no character gives the replacement character. -/
def letterOf (n : Int) : Char :=
  if 0 ≤ n && n.toNat.isValidChar then Char.ofNat n.toNat else Loose.replacement

namespace Value

/-- The plain text of a value. -/
def plain : Value → Loose
  | .text t => t
  | .whole n => Loose.ofString (Integer.text n)
  | .real x => Loose.ofString (Layout.shown.render x)
  | .truth b => Loose.ofString (truthText b)
  | .duration d => Loose.ofString d.text
  | .time t => Loose.ofString t.text
  | .error message => message
  | .texts items => Loose.ofString (bracketed items)
  | .wholes items => Loose.ofString (bracketed (items.map Integer.text))
  | .nothing => Loose.ofString "<nil>"

/-- The quoted text of a value.  Kinds that cannot be quoted are shown with their kind. -/
def quoted : Value → String
  | .text t => Text.quotedLoose t
  | .whole n => Text.quotedLetter (letterOf n)
  | .real x => "%!q(float64=" ++ Layout.shown.render x ++ ")"
  | .truth b => "%!q(bool=" ++ truthText b ++ ")"
  | .duration d => Text.quoted d.text
  | .time t => Text.quoted t.text
  | .error message => Text.quotedLoose message
  | .texts items => bracketed (items.map Text.quoted)
  | .wholes items => bracketed (items.map fun n => Text.quotedLetter (letterOf n))
  | .nothing => "%!q(<nil>)"

end Value

/-! ## Levels -/

/-- How important an entry is; the named levels are four apart. -/
abbrev Level := Int

namespace Level

/-- The level of single file events. -/
def trace : Level := -8

/-- The level of single methods and invocations. -/
def debug : Level := -4

/-- The usual level. -/
def info : Level := 0

/-- The level of trouble that does not stop the work. -/
def warn : Level := 4

/-- The level of failures. -/
def error : Level := 8

/-- The level that a word and a count of requests for more ask for.  A word wins over the count; `none`
if the word is unknown. -/
def ofVerbosity? (word : String) (count : Int) : Option Level :=
  match Text.lower (Text.trim word) with
  | "trace" => some trace
  | "debug" => some debug
  | "info" => some info
  | "warn" => some warn
  | "warning" => some warn
  | "error" => some error
  | "" => some (if count ≤ 0 then info else if count = 1 then debug else trace)
  | _ => none

end Level

/-- Why a log cannot be set up. -/
inductive SetupError where
  | unknownVerbosity (word : String)
  | unknownFormat (word : String)
deriving DecidableEq, Repr

namespace SetupError

/-- The cause and the text of an error. -/
def failure : SetupError → Failure
  | .unknownVerbosity word => .other ("unknown verbosity " ++ Text.quoted word)
  | .unknownFormat word => .other ("unknown log format " ++ Text.quoted word)

end SetupError

/-- The level that a word and a count ask for. -/
def Level.ofVerbosity (word : String) (count : Int) : Except SetupError Level :=
  match Level.ofVerbosity? word count with
  | some l => .ok l
  | none => .error (.unknownVerbosity word)

/-! ## Entries -/

/-- A message with its attributes. -/
structure Entry where
  level : Level := Level.info
  message : String
  attrs : List Attr := []
deriving DecidableEq, Inhabited

end CallCoupling.Log
