import Gadget.Errno
import Gadget.Transfer.Slot
/-!
# Completions: `Completion`

A completed transfer as the caller sees it: whose buffer it was, what the kernel reported, and the
bytes of the whole buffer. A result below zero is an error number. A result from zero upward is a
byte count; one that claims more than the buffer holds counts as the rest of the buffer.
-/
namespace Gadget

/-- A completed transfer. -/
structure Completion where
  slot : Slot
  file : Int32
  /-- The byte count, or a negated error number. -/
  result : Int64
  /-- Where the transferred bytes begin. -/
  offset : Nat
  /-- The whole buffer, header included. -/
  data : List UInt8
deriving DecidableEq, Repr

namespace Completion

/-- Whether the transfer failed (`Completion::is_error`). -/
def isError (c : Completion) : Bool := c.result < 0

/-- The error that the transfer ended with (`Completion::errno`). -/
def errno (c : Completion) : Option Errno := Errno.ofResult c.result

/-- Where the transferred bytes end, never behind the buffer (`Completion::transfer_end`). -/
def stop (c : Completion) : Except Errno Nat :=
  match c.errno with
  | some e => .error e
  | none => .ok (min (Limits.saturatingAdd c.offset c.result.toInt.toNat) c.data.length)

/-- The transferred bytes (`Completion::payload`). -/
def payload (c : Completion) : Except Errno (List UInt8) :=
  c.stop.map fun stop => (c.data.take stop).drop c.offset

/-- The header and the transferred bytes (`Completion::frame`). -/
def frame (c : Completion) : Except Errno (List UInt8) :=
  c.stop.map fun stop => c.data.take stop

end Completion

end Gadget
