import CallCoupling.Log.Basic

/-!
# Compact log lines

A compact line has the level, the time, the components in brackets, the message and, after a bar, the
attributes.  Three keys are special: a long request identity is shortened, a duration in milliseconds
gets its unit, and an error is always quoted.  Other texts are quoted if they hold a blank, a line end,
a quote or an equals sign.

A handler carries attributes, which come before those of the entry, and the name of the open group,
which qualifies the key of every attribute shown.
-/

set_option autoImplicit false

namespace CallCoupling.Log

/-- A writer of compact lines. -/
structure Compact where
  /-- The least level that is written. -/
  least : Level := Level.info
  attrs : List Attr := []
  /-- The names of the open groups, joined by points. -/
  group : String := ""
deriving DecidableEq, Inhabited

namespace Compact

/-- Is an entry of this level written? -/
def enabled (h : Compact) (level : Level) : Bool := h.least ≤ level

/-- The handler with more attributes. -/
def withAttrs (h : Compact) (attrs : List Attr) : Compact := { h with attrs := h.attrs ++ attrs }

/-- A key inside a group; no group leaves it as it is. -/
def qualified (group key : String) : String := if group = "" then key else group ++ "." ++ key

/-- The handler with one more group open. -/
def withGroup (h : Compact) (name : String) : Compact := { h with group := qualified h.group name }

/-- The mark of a level. -/
def mark (level : Level) : String :=
  if level < Level.debug then "[TRACE] "
  else if level < Level.info then "[DEBUG] "
  else if level < Level.warn then "[INFO]  "
  else if level < Level.error then "[WARN]  "
  else "[ERROR] "

/-- The key under which a component is attached to a handler. -/
def componentKey : String := "component"

/-- Does a text have to be quoted to stand as a value? -/
def needsQuotes (t : Loose) : Bool :=
  t.any fun
    | .char c => c = ' ' || c = '\t' || c = '\n' || c = '"' || c = '='
    | .stray _ => false

/-- A value as it stands after its key. -/
def shown : Value → Loose
  | .text t => if needsQuotes t then Loose.ofString (Text.quotedLoose t) else t
  | .time t => Loose.ofString t.stamp
  | v => v.plain

/-- How many bytes of a request identity are shown. -/
def identityBytes : Nat := 8

/-- The short form of a request identity, if it is long enough to need one. -/
def shortIdentity? : Value → Option Loose
  | .text t =>
    if identityBytes < t.toBytes.length then
      some (Loose.ofString "req=" ++ Loose.ofBytes (t.toBytes.take identityBytes))
    else none
  | _ => none

/-- An attribute without special form. -/
def plainAttr (a : Attr) : Loose := Loose.ofString (a.key ++ "=") ++ shown a.value

/-- An attribute as it is shown. -/
def attr (a : Attr) : Loose :=
  match a.key with
  | "requestID" => (shortIdentity? a.value).getD (plainAttr a)
  | "durationMs" => Loose.ofString "duration=" ++ a.value.plain ++ Loose.ofString "ms"
  | "error" => Loose.ofString ("error=" ++ a.value.quoted)
  | _ => plainAttr a

/-- A component in its brackets. -/
def component (v : Value) : Loose := Loose.ofString "[" ++ v.plain ++ Loose.ofString "] "

/-- The attributes after the message. -/
def attrList (group : String) (attrs : List Attr) : Loose :=
  match attrs.filter fun a => !a.isEmpty with
  | [] => []
  | given => Loose.ofString " |" ++ given.flatMap fun a =>
      .char ' ' :: attr { a with key := qualified group a.key }

/-- The line of an entry. -/
def line (h : Compact) (clock : String) (e : Entry) : Loose :=
  let (components, others) := h.attrs.partition fun a => a.key = componentKey
  Loose.ofString (mark e.level ++ clock ++ " ") ++
    components.flatMap (fun a => component a.value) ++
    Loose.ofString e.message ++
    attrList h.group (others ++ e.attrs) ++
    [.char '\n']

end Compact

end CallCoupling.Log
