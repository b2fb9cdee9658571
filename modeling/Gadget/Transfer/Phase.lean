/-!
# Phases: `BufferState`

The life of a transfer buffer: idle until it is armed for the first time, then round and round
from armed (waiting to be submitted) over in flight (owned by the kernel) to completed (owned by
the caller) and back to armed.
-/
namespace Gadget

/-- Where a transfer buffer stands. -/
inductive Phase
  /-- Never armed. -/
  | idle
  /-- Holds a transfer that waits for submission. -/
  | armed
  /-- Owned by the kernel. -/
  | inFlight
  /-- The transfer is over; the caller may look at the data, refill it or arm the buffer again. -/
  | completed
deriving DecidableEq, Repr

namespace Phase

/-- The name that error messages use (`Debug for BufferState`). -/
def name : Phase → String
  | idle => "Idle"
  | armed => "Armed"
  | inFlight => "InFlight"
  | completed => "Completed"

/-- Whether nobody is waiting for the buffer's memory: neither the queue nor the kernel. -/
def isFree : Phase → Bool
  | idle | completed => true
  | armed | inFlight => false

end Phase

end Gadget
