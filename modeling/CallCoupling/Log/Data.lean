import CallCoupling.Json.Writer
import CallCoupling.Log.Basic

/-!
# Log lines as data

An entry is one JSON object a line: time, level and message, then the attributes in order, repeats
included.  Texts are spelled plainly: only what JSON forbids in a string, the line separators and stray
bytes are spelled by number.
-/

set_option autoImplicit false

namespace CallCoupling.Log

namespace Data

/-- A character as it is spelled in a log. -/
def spellChar (c : Char) : List Char :=
  let n := c.toNat
  if c = '"' then ['\\', '"']
  else if c = '\\' then ['\\', '\\']
  else if c = '\n' then ['\\', 'n']
  else if c = '\r' then ['\\', 'r']
  else if c = '\t' then ['\\', 't']
  else if n < 0x20 || n = 0x2028 || n = 0x2029 then '\\' :: 'u' :: Text.hex 4 n
  else [c]

/-- A text as it is spelled in a log. -/
def spell (t : Loose) : List Char :=
  t.flatMap fun
    | .char c => spellChar c
    | .stray _ => '\\' :: 'u' :: Text.hex 4 Loose.replacement.toNat

/-- A text as a JSON string. -/
def ofText (s : String) : Json := .string (spell (Loose.ofString s))

/-- A character of an item of a list, where two control characters have letters. -/
def spellItemChar (c : Char) : List Char :=
  if c.toNat = 8 then ['\\', 'b'] else if c.toNat = 12 then ['\\', 'f'] else spellChar c

/-- A moment in JSON, whose dates have four digits for the year. -/
def ofMoment (t : Moment) : Json :=
  if 0 ≤ t.date.year && t.date.year ≤ 9999 then ofText t.stamp
  else ofText "!ERROR:time.Time year outside of range [0,9999]"

/-- A value in JSON. -/
def ofValue : Value → Json
  | .text t => .string (spell t)
  | .whole n => .int n
  | .real x => .number (Layout.data.render x)
  | .truth b => .bool b
  | .duration d => .int d.nanoseconds
  | .time t => ofMoment t
  | .error message => .string (spell message)
  | .texts items => .array (items.map fun s => .string (s.toList.flatMap spellItemChar))
  | .wholes items => .array (items.map Json.int)
  | .nothing => .null

/-- The name of a level: the next named level below it and the distance from there. -/
def levelName (level : Level) : String :=
  let named (name : String) (least : Level) : String :=
    if level = least then name
    else name ++ (if least < level then "+" else "") ++ Integer.text (level - least)
  if level < Level.info then named "DEBUG" Level.debug
  else if level < Level.warn then named "INFO" Level.info
  else if level < Level.error then named "WARN" Level.warn
  else named "ERROR" Level.error

/-- The line of an entry, behind attributes that were attached before. -/
def line (attached : List Attr) (time : String) (e : Entry) : String :=
  let fields := (attached ++ e.attrs).filter fun a => !a.isEmpty
  (Json.object (
    [("time".toList, ofText time), ("level".toList, .text (levelName e.level)),
      ("msg".toList, ofText e.message)] ++
    fields.map fun a => (spell (Loose.ofString a.key), ofValue a.value))).compact ++ "\n"

end Data

end CallCoupling.Log
