import CallCoupling.Text.Terminal.Style

/-!
# Sequences

A text is a list of sequences: single characters and clusters, and commands that steer the terminal.
`Sequence.next` takes the first one off.  A command that is broken off ends in front of the byte that
breaks it.
-/

set_option autoImplicit false

namespace CallCoupling.Terminal

/-- What a sequence asks for. -/
inductive Command where
  /-- Nothing that matters for the layout of a text. -/
  | none
  /-- A style. -/
  | style (params : List Param)
  /-- A link. -/
  | link (l : Link)
deriving Inhabited

/-- The front of a text: how many bytes it takes, its columns and what it asks for. -/
structure Sequence where
  size : Nat
  width : Nat := 0
  command : Command := .none
deriving Inhabited

namespace Sequence

/-- Add one digit to the last of some parameters, which are kept in reverse. -/
def addDigit (d : Nat) : List Param → List Param
  | p :: ps => { p with given := some (p.value * 10 + d) } :: ps
  | [] => [{ given := some d }]

/-- End the last of some parameters, which are kept in reverse. -/
def endParam (joined : Bool) : List Param → List Param
  | p :: ps => {} :: { p with joined } :: ps
  | [] => [{}]

/-- The parameters in order; a single one that is not given is none. -/
def finished (ps : List Param) : List Param :=
  match ps with
  | [p] => if p.given.isNone then [] else ps
  | _ => ps.reverse

/-- Where a control sequence or a device sequence is. -/
inductive Part where
  | start
  | params
  | middle
deriving DecidableEq, Repr

/-- A control sequence or the head of a device sequence. -/
structure Head where
  /-- How many bytes have been taken. -/
  size : Nat
  part : Part := .start
  params : List Param := [{}]
  /-- Is it a plain sequence, without private marks? -/
  plain : Bool := true

/-- Take bytes of a sequence up to its final byte: what has been taken, and the final byte if there is
one. -/
def takeHead (h : Head) : List UInt8 → Head × Option UInt8
  | [] => (h, none)
  | b :: rest =>
    let grown := { h with size := h.size + 1 }
    if h.part = .start && 0x3C ≤ b && b ≤ 0x3F then takeHead { grown with plain := false } rest
    else if h.part ≠ .middle && 0x30 ≤ b && b ≤ 0x39 then
      takeHead { grown with part := .params, params := addDigit (b.toNat - 0x30) h.params } rest
    else if h.part ≠ .middle && (b = 0x3A || b = 0x3B) then
      takeHead { grown with part := .params, params := endParam (b = 0x3A) h.params } rest
    else if 0x20 ≤ b && b ≤ 0x2F then takeHead { grown with part := .middle, plain := false } rest
    else if 0x40 ≤ b && b ≤ 0x7E then (grown, some b)
    else (h, none)

/-- The number of bytes that a text takes up to its end, its end included; a bell ends only a command for
the system. -/
def textSize (bell : Bool) : List UInt8 → Nat
  | [] => 0
  | b :: rest =>
    if bell && b = 0x07 then 1
    else if b = 0x18 || b = 0x1A then 0
    else if b = 0x9C then 1
    else if b = 0x1B then (if rest.head? = some 0x5C then 2 else 0)
    else 1 + textSize bell rest

/-- The bytes of a text without its end. -/
def textBody (bell : Bool) : List UInt8 → List UInt8
  | [] => []
  | b :: rest =>
    if (bell && b = 0x07) || b = 0x18 || b = 0x1A || b = 0x9C || b = 0x1B then []
    else b :: textBody bell rest

/-- The pieces between semicolons. -/
def pieces : List UInt8 → List (List UInt8)
  | [] => [[]]
  | b :: rest =>
    if b = 0x3B then [] :: pieces rest
    else
      match pieces rest with
      | [] => [[b]]
      | p :: ps => (b :: p) :: ps

/-- The number that digits at the front spell. -/
def leadingNumber (bytes : List UInt8) : Nat :=
  (bytes.takeWhile fun b => 0x30 ≤ b && b ≤ 0x39).foldl (fun n b => n * 10 + (b.toNat - 0x30)) 0

/-- What a command for the system asks for: number eight sets a link. -/
def systemCommand (body : List UInt8) : Command :=
  match pieces body with
  | [_, params, target] => if leadingNumber body = 8 then .link { params, target } else .none
  | _ => .none

/-- A command for the system with `before` bytes in front of its text. -/
def system (before : Nat) (rest : List UInt8) : Sequence :=
  { size := before + textSize true rest, command := systemCommand (textBody true rest) }

/-- A message with `before` bytes in front of its text. -/
def message (before : Nat) (rest : List UInt8) : Sequence := { size := before + textSize false rest }

/-- A control sequence with `before` bytes in front of its parameters; only one that is `direct`, with
nothing between the escape character and the bracket, can ask for a style. -/
def control (direct : Bool) (before : Nat) (rest : List UInt8) : Sequence :=
  let (h, final) := takeHead { size := before } rest
  { size := h.size
    command := if direct && h.plain && final = some 0x6D then .style (finished h.params) else .none }

/-- A device sequence with `before` bytes in front of its parameters. -/
def device (before : Nat) (rest : List UInt8) : Sequence :=
  let (h, final) := takeHead { size := before } rest
  if final.isSome then message h.size (rest.drop (h.size - before)) else { size := h.size }

/-- A sequence after the escape character and `before - 1` more bytes. -/
def escaped (before : Nat) : List UInt8 → Sequence
  | [] => { size := before }
  | b :: rest =>
    let direct := before = 1
    if b = 0x5B then control direct (before + 1) rest
    else if b = 0x50 then (if direct then device (before + 1) rest else control false (before + 1) rest)
    else if b = 0x5D then (if direct then system (before + 1) rest else message (before + 1) rest)
    else if b = 0x58 || b = 0x5E || b = 0x5F then message (before + 1) rest
    else if 0x20 ≤ b && b ≤ 0x2F then escaped (before + 1) rest
    else if 0x30 ≤ b && b ≤ 0x7E then { size := before + 1 }
    else { size := before }

/-- The first sequence of a text. -/
def next : List UInt8 → Sequence
  | [] => { size := 0 }
  | b :: rest =>
    if b = 0x1B then escaped 1 rest
    else if b = 0x9B then control true 1 rest
    else if b = 0x90 then device 1 rest
    else if b = 0x9D then system 1 rest
    else if b = 0x98 || b = 0x9E || b = 0x9F then message 1 rest
    else if 0x20 ≤ b && b < 0x7F then { size := 1, width := 1 }
    else if b < 0xC0 then { size := 1 }
    else
      let (size, width) := Text.Cluster.first (b :: rest)
      { size, width }

end Sequence

end CallCoupling.Terminal
