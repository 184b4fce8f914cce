import CallCoupling.Text.Loose

/-!
# Outputs that may fail

An output is handed a text in chunks, one for each write, and may fail after some of them.  A writer keeps in
mind that its output has failed: what comes after the first failure is not written.
-/

set_option autoImplicit false

namespace CallCoupling

/-- An output, with what was written to it. -/
structure Output where
  /-- How many more writes it accepts; any number if there is no limit. -/
  room : Option Nat := none
  /-- The chunks that it accepted. -/
  accepted : Array Loose := #[]
  /-- How many writes were tried. -/
  attempts : Nat := 0
deriving Inhabited

namespace Output

/-- Try one write; the answer says whether it was accepted. -/
def write (o : Output) (chunk : Loose) : Output × Bool :=
  let tried := { o with attempts := o.attempts + 1 }
  match o.room with
  | none => ({ tried with accepted := o.accepted.push chunk }, true)
  | some 0 => (tried, false)
  | some (n + 1) => ({ tried with room := some n, accepted := o.accepted.push chunk }, true)

/-- The text that was accepted. -/
def text (o : Output) : Loose := Loose.join o.accepted.toList

end Output

/-- A writer to an output. -/
structure Writer where
  output : Output := {}
  /-- Has a write failed? -/
  failed : Bool := false
deriving Inhabited

namespace Writer

/-- Write a chunk, unless a write has failed before. -/
def put (w : Writer) (chunk : Loose) : Writer :=
  if w.failed then w
  else
    let (output, accepted) := w.output.write chunk
    { output, failed := !accepted }

end Writer

end CallCoupling
