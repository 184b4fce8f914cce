import CallCoupling.Log.Compact
import CallCoupling.Log.Data

/-!
# Loggers

A logger has a format and a least level.  Parts of the program log through a component, whose name is
attached to every entry.  An entry that belongs to a request carries the identity of the request before
its other attributes.
-/

set_option autoImplicit false

namespace CallCoupling.Log

/-- The shape of log lines. -/
inductive Format where
  | compact
  | data
deriving DecidableEq, Repr, Inhabited

namespace Format

/-- The format with a name. -/
def named (name : String) : Except SetupError Format :=
  match Text.lower name with
  | "" => .ok .compact
  | "compact" => .ok .compact
  | "json" => .ok .data
  | _ => .error (.unknownFormat name)

/-- The time of an entry as the format shows it. -/
def stamp : Format → Moment → String
  | .compact, t => t.clock
  | .data, t => t.stamp

end Format

/-- Where entries go. -/
structure Logger where
  format : Format := .compact
  least : Level := Level.info
deriving DecidableEq, Repr, Inhabited

/-- An entry with the attributes of the part that logs it. -/
structure Note where
  attached : List Attr := []
  entry : Entry
deriving DecidableEq, Inhabited

namespace Note

/-- The attributes of a component. -/
def component (name : String) : List Attr := [.text Compact.componentKey name]

/-- An entry that belongs to no component. -/
def plain (level : Level) (message : String) (attrs : List Attr) : Note :=
  { entry := { level, message, attrs } }

/-- An entry of a component. -/
def of (name : String) (level : Level) (message : String) (attrs : List Attr) : Note :=
  { attached := component name, entry := { level, message, attrs } }

/-- An entry that belongs to a request; a request without identity adds nothing. -/
def ofRequest (id : Loose) (level : Level) (message : String) (attrs : List Attr) : Note :=
  plain level message ((if id.isEmpty then [] else [⟨"requestID", .text id⟩]) ++ attrs)

end Note

namespace Logger

/-- The line of a note, or nothing if its level is too low. -/
def line (l : Logger) (time : String) (n : Note) : Loose :=
  if n.entry.level < l.least then []
  else
    match l.format with
    | .compact => ({ least := l.least, attrs := n.attached : Compact }).line time n.entry
    | .data => Loose.ofString (Data.line n.attached time n.entry)

/-- The lines of notes. -/
def lines (l : Logger) (time : String) (notes : List Note) : Loose := notes.flatMap (l.line time)

end Logger

end CallCoupling.Log
