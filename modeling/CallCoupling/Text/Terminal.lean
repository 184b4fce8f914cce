import CallCoupling.Text.Cluster

/-!
# Columns on a terminal

A terminal reads a text byte by byte.  Most bytes are shown, but an escape character starts a sequence that
only steers the terminal, and a sequence may go on for any number of bytes.  `Terminal.transition` is the
automaton for it; the number of columns of a text and the part of it that fits into a number of columns
follow what the automaton shows.
-/

set_option autoImplicit false

namespace CallCoupling.Terminal

/-- Where the automaton is. -/
inductive State where
  | ground
  /-- After the escape character. -/
  | escape
  /-- In a sequence without parameters. -/
  | escapeMiddle
  /-- At the start of a control sequence. -/
  | controlEntry
  /-- In the parameters of a control sequence. -/
  | controlParam
  /-- Behind the parameters of a control sequence. -/
  | controlMiddle
  /-- At the start of a device sequence. -/
  | deviceEntry
  /-- In the parameters of a device sequence. -/
  | deviceParam
  /-- Behind the parameters of a device sequence. -/
  | deviceMiddle
  /-- In the text of a device sequence. -/
  | deviceText
  /-- In a command for the operating system. -/
  | systemText
  /-- In a message that nobody reads. -/
  | message
deriving DecidableEq, Repr

/-- What a byte does. -/
inductive Effect where
  /-- It is shown in a column of its own. -/
  | print
  /-- It is a control. -/
  | execute
  /-- It is part of a sequence, or nothing. -/
  | silent
  /-- It begins a character past ASCII. -/
  | character
deriving DecidableEq, Repr

/-- What a byte past ASCII does outside of texts. -/
def highTransition (b : UInt8) : State × Effect :=
  if b = 0x90 then (.deviceEntry, .silent)
  else if b = 0x98 || b = 0x9E || b = 0x9F then (.message, .silent)
  else if b = 0x9B then (.controlEntry, .silent)
  else if b = 0x9D then (.systemText, .silent)
  else if b < 0xA0 then (.ground, .execute)
  else if 0xC2 ≤ b && b ≤ 0xF4 then (.ground, .character)
  else (.ground, .silent)

/-- What an ASCII byte from the blank on does after the escape character. -/
def escapeTransition (b : UInt8) : State :=
  if b = 0x7F then .escape
  else if b ≤ 0x2F then .escapeMiddle
  else if b = 0x50 then .deviceEntry
  else if b = 0x5B then .controlEntry
  else if b = 0x5D then .systemText
  else if b = 0x58 || b = 0x5E || b = 0x5F then .message
  else .ground

/-- What an ASCII byte from the blank on does in a state that is no text. -/
def lowTransition (s : State) (b : UInt8) : State :=
  match s with
  | .escape => escapeTransition b
  | .escapeMiddle => if b ≤ 0x2F || b = 0x7F then s else .ground
  | .controlEntry | .controlParam =>
    if b = 0x7F then s
    else if b ≤ 0x2F then .controlMiddle
    else if b ≤ 0x3F then .controlParam
    else .ground
  | .controlMiddle => if b ≤ 0x2F || b = 0x7F then s else .ground
  | .deviceEntry | .deviceParam =>
    if b = 0x7F then s
    else if b ≤ 0x2F then .deviceMiddle
    else if b ≤ 0x3F then .deviceParam
    else .deviceText
  | .deviceMiddle => if b ≤ 0x2F || b = 0x7F then s else .deviceText
  | _ => s

/-- The state and the effect of one more byte. -/
def transition (s : State) (b : UInt8) : State × Effect :=
  match s with
  | .systemText =>
    if b = 0x1B then (.escape, .silent)
    else if b = 0x07 || b = 0x18 || b = 0x1A || b = 0x9C then (.ground, .silent)
    else (s, .silent)
  | .deviceText =>
    if b = 0x1B then (.escape, .silent)
    else if b = 0x18 || b = 0x1A || b = 0x9C then (.ground, .silent)
    else (s, .silent)
  | .message =>
    if b = 0x1B then (.escape, .silent)
    else if b = 0x18 || b = 0x1A || b = 0x9C then (.ground, .silent)
    else if b < 0x80 then (s, .silent)
    else highTransition b
  | .ground =>
    if b = 0x1B then (.escape, .silent)
    else if b < 0x20 || b = 0x7F then (s, .execute)
    else if b < 0x80 then (s, .print)
    else highTransition b
  | .deviceEntry =>
    if b = 0x1B || (0x08 ≤ b && b ≤ 0x0D) then (.deviceText, .silent)
    else if b = 0x18 || b = 0x1A then (.ground, .execute)
    else if b < 0x20 then (s, .silent)
    else if b < 0x80 then (lowTransition s b, .silent)
    else highTransition b
  | _ =>
    if b = 0x1B then (.escape, .silent)
    else if b = 0x18 || b = 0x1A then (.ground, .execute)
    else if b < 0x20 then
      (s, if s = .deviceParam || s = .deviceMiddle then .silent else .execute)
    else if b < 0x80 then (lowTransition s b, .silent)
    else highTransition b

/-! ## Columns -/

/-- The columns of bytes that follow in a state. -/
def widthFrom (s : State) (total : Nat) (bytes : List UInt8) : Nat :=
  match bytes with
  | [] => total
  | b :: rest =>
    match transition s b with
    | (s, .character) =>
      let (size, width) := Text.Cluster.first (b :: rest)
      widthFrom s (total + width) (rest.drop (size - 1))
    | (s, .print) => widthFrom s (total + 1) rest
    | (s, _) => widthFrom s total rest
termination_by bytes.length
decreasing_by all_goals simp only [List.length_drop, List.length_cons]; omega

/-- The number of columns that a line takes. -/
def width (line : List UInt8) : Nat := widthFrom .ground 0 line

/-- The bytes that follow in a state, cut after `room` columns; sequences behind the cut are kept.  A cut
before a character that is too wide cuts all that follows. -/
def cutFrom (s : State) (room : Nat) (isCut : Bool) (bytes : List UInt8) : List UInt8 :=
  match bytes with
  | [] => []
  | b :: rest =>
    match transition s b with
    | (next, .character) =>
      let (size, width) := Text.Cluster.first (b :: rest)
      if isCut || room < width then cutFrom s room true (rest.drop (size - 1))
      else (b :: rest).take size ++ cutFrom next (room - width) false (rest.drop (size - 1))
    | (next, .print) =>
      if isCut || room = 0 then cutFrom s room true rest
      else b :: cutFrom next (room - 1) false rest
    | (next, _) => b :: cutFrom next room isCut rest
termination_by bytes.length
decreasing_by all_goals simp only [List.length_drop, List.length_cons]; omega

/-- The part of a line that fits into a number of columns. -/
def cut (columns : Nat) (line : List UInt8) : List UInt8 :=
  if width line ≤ columns then line else cutFrom .ground columns false line

end CallCoupling.Terminal
