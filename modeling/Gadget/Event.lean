import Gadget.Endpoint.Plan
import Gadget.Text.Raw
import Gadget.Transfer.Error
/-!
# Log events: `event!`

Everything that the library reports while it works, as data: an event knows its level, its message
and its fields, each field with its value as text.
-/
namespace Gadget

/-- How much an event matters. -/
inductive Level
  | trace
  | debug
  | warn
deriving DecidableEq, Repr

/-- The level's name. -/
def Level.name : Level → String
  | trace => "TRACE"
  | debug => "DEBUG"
  | warn => "WARN"

/-- Something worth reporting. -/
inductive Event
  | openedContext (id : UInt64) (maxEvents : UInt32)
  | openedDoorbell (file : Int32)
  | createdEngine (endpoints maxEvents : Nat) (doorbell : Int32)
  | equipped (index : Nat) (plan : EndpointPlan)
  | allocationFailed (buffer size : Nat)
  | discarded (slot : Slot) (result : Int64) (error : TransferError)
  | polled (signaled : UInt64) (received valid : Nat)
  | rearmed (slot : Slot) (direction : Direction)
  | submitted (accepted : Nat)
  | partlySubmitted (requested accepted : Nat)
  | releasing (inFlight waiting : Nat)
  | closedContext (id : UInt64)
  | closeContextFailed (id : UInt64) (errno : Errno)
  | leaking (inFlight : Nat)
  | closeDoorbellFailed (file : Int32) (errno : Errno)
  | unreadableEntry (error : SystemError)
  | skippedEntry (path : RawText) (error : SystemError)
  | foundNode (major minor : UInt32) (path : RawText)
  | openedEndpoint (direction : Direction) (path : RawText)
  | mounted (name : String) (target : RawText)
  | alreadyMounted (name : String) (target : RawText)
deriving DecidableEq, Repr

namespace Event

/-- The event's level. -/
def level : Event → Level
  | openedContext .. | openedDoorbell .. | polled .. | rearmed .. | submitted ..
  | closedContext .. | unreadableEntry .. | skippedEntry .. => .trace
  | createdEngine .. | equipped .. | allocationFailed .. | partlySubmitted .. | releasing ..
  | foundNode .. | openedEndpoint .. | mounted .. | alreadyMounted .. => .debug
  | discarded .. | closeContextFailed .. | leaking .. | closeDoorbellFailed .. => .warn

/-- The event's message. -/
def message : Event → String
  | openedContext .. => "created AIO context"
  | openedDoorbell .. => "created wake-up eventfd"
  | createdEngine .. => "created asynchronous I/O context"
  | equipped .. => "initialized endpoint"
  | allocationFailed .. => "buffer allocation failed, releasing endpoint buffers"
  | discarded .. => "discarding completion record that does not belong to an in-flight buffer"
  | polled .. => "polled completions"
  | rearmed .. => "rearmed buffer"
  | submitted .. => "submitted batch"
  | partlySubmitted .. => "kernel accepted part of the submission batch"
  | releasing .. => "releasing asynchronous I/O context"
  | closedContext .. => "destroyed AIO context"
  | closeContextFailed .. => "failed to destroy AIO context"
  | leaking .. => "leaking transfer buffers the kernel may still reference"
  | closeDoorbellFailed .. => "failed to close wake-up eventfd"
  | unreadableEntry .. => "skipping unreadable directory entry"
  | skippedEntry .. => "skipping entry"
  | foundNode .. => "resolved device node"
  | openedEndpoint .read _ => "opened OUT endpoint"
  | openedEndpoint .write _ => "opened IN endpoint"
  | mounted .. => "mounted FunctionFS instance"
  | alreadyMounted .. => "FunctionFS instance already mounted"

/-- The event's fields, by name. -/
def fields : Event → List (String × String)
  | openedContext id maxEvents =>
    [("id", toString id.toNat), ("max_events", toString maxEvents.toNat)]
  | openedDoorbell file => [("fd", toString file.toInt)]
  | createdEngine endpoints maxEvents doorbell =>
    [("ep_count", toString endpoints), ("max_events", toString maxEvents),
      ("wake_fd", toString doorbell.toInt)]
  | equipped index plan =>
    [("index", toString index), ("fd", toString plan.file.toInt),
      ("direction", plan.direction.text), ("buf_count", toString plan.count),
      ("buf_size", toString plan.size), ("buf_offset", toString plan.header)]
  | allocationFailed buffer size =>
    [("buffer_index", toString buffer), ("buf_size", toString size)]
  | discarded slot result error =>
    [("key", slot.text), ("res", toString result.toInt), ("error", error.message)]
  | polled signaled received valid =>
    [("signaled", toString signaled.toNat), ("received", toString received),
      ("valid", toString valid)]
  | rearmed slot direction => [("key", slot.text), ("direction", direction.text)]
  | submitted accepted => [("accepted", toString accepted)]
  | partlySubmitted requested accepted =>
    [("requested", toString requested), ("accepted", toString accepted)]
  | releasing inFlight waiting =>
    [("in_flight", toString inFlight), ("pending", toString waiting)]
  | closedContext id => [("id", toString id.toNat)]
  | closeContextFailed id errno => [("id", toString id.toNat), ("errno", errno.message)]
  | leaking inFlight => [("in_flight", toString inFlight)]
  | closeDoorbellFailed file errno => [("fd", toString file.toInt), ("errno", errno.message)]
  | unreadableEntry error => [("error", error.message)]
  | skippedEntry path error => [("path", path.display), ("error", error.message)]
  | foundNode major minor path =>
    [("major", toString major.toNat), ("minor", toString minor.toNat), ("path", path.display)]
  | openedEndpoint _ path => [("path", path.display)]
  | mounted name target | alreadyMounted name target =>
    [("name", name), ("target", target.display)]

/-- The event as one line of words: level, message, then `name=value` for each field. -/
def line (e : Event) : List String :=
  e.level.name :: e.message :: e.fields.map fun (name, value) => s!"{name}={value}"

end Event

end Gadget
