import Gadget.Machine.Basic
/-!
# Handles: `AioHandle` and `WakeFd`

The two kernel resources that an engine holds: an I/O context, and a doorbell, which is an eventfd
that announces completions. Closing an `IoContext` reaches the kernel at most once, however often
it is asked for and whatever the kernel answered: the mark is set before the call.
-/
namespace Gadget

variable {κ : Type} [Kernel κ]

/-! ## The I/O context -/

/-- An I/O context of the kernel (`AioHandle`). -/
structure IoContext where
  id : UInt64
  /-- Whether the kernel was asked to take it back. -/
  closed : Bool
deriving DecidableEq, Repr

namespace IoContext

/-- Asks the kernel for an I/O context (`AioHandle::new`). -/
def create (maxEvents : UInt32) (m : Machine κ) : Except TransferError IoContext × Machine κ :=
  match m.setup maxEvents with
  | (.error e, m) => (.error (.setupFailed e), m)
  | (.ok id, m) => (.ok ⟨id, false⟩, m.log (.openedContext id maxEvents))

/-- Gives the I/O context back, unless that was tried before (`AioHandle::destroy`). -/
def close (h : IoContext) (m : Machine κ) : Except Errno Unit × IoContext × Machine κ :=
  if h.closed then (.ok (), h, m)
  else
    let h := { h with closed := true }
    match m.destroy h.id with
    | (.ok (), m) => (.ok (), h, m.log (.closedContext h.id))
    | (.error e, m) => (.error e, h, m.log (.closeContextFailed h.id e))

/-- Lets go of the handle (`Drop for AioHandle`); a failure is logged and otherwise ignored. -/
def drop (h : IoContext) (m : Machine κ) : Machine κ :=
  (h.close m).2.2

/-- Submits a batch (`AioHandle::submit`): how many descriptors the kernel says it took. -/
def submit (h : IoContext) (batch : List Descriptor) (m : Machine κ) :
    Except Errno Nat × Machine κ :=
  m.submit h.id batch

/-- Collects completion records (`AioHandle::get_events`): how many the kernel says it delivered, and the
array afterwards. -/
def collect (h : IoContext) (minimum : Nat) (records : List Record) (m : Machine κ) :
    Except Errno Nat × List Record × Machine κ :=
  m.getEvents h.id minimum records

end IoContext

/-! ## The doorbell -/

/-- An eventfd that the kernel signals with every completion (`WakeFd`). -/
structure Doorbell where
  file : Int32
deriving DecidableEq, Repr

namespace Doorbell

/-- Opens an eventfd (`WakeFd::new`). -/
def create (m : Machine κ) : Except TransferError Doorbell × Machine κ :=
  match m.eventfd with
  | (.error e, m) => (.error (.setupFailed e), m)
  | (.ok file, m) => (.ok ⟨file⟩, m.log (.openedDoorbell file))

/-- Waits for a signal and takes the number of signals (`WakeFd::wait`). -/
def wait (h : Doorbell) (m : Machine κ) : Except Errno UInt64 × Machine κ :=
  m.readCounter h.file

/-- Closes the eventfd (`Drop for WakeFd`); a failure is logged and otherwise ignored. -/
def drop (h : Doorbell) (m : Machine κ) : Machine κ :=
  match m.close h.file with
  | (.ok (), m) => m
  | (.error e, m) => m.log (.closeDoorbellFailed h.file e)

end Doorbell

end Gadget
