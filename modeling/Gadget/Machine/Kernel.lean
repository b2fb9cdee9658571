import Gadget.Errno
import Gadget.Memory
import Gadget.Text.Raw
import Gadget.Transfer.Descriptor
/-!
# Kernels: the traits `Bindings` and `Platform`

What the library asks of a kernel, and of the allocator that shares memory out. A kernel is any state
with these answers: nothing is promised about them, so a kernel may refuse any call and any request for
memory, report any count and make up any record. The calls made so far are kept as a list of `Call`s, each
with what was asked and what came of it.

| here | there |
| --- | --- |
| `Kernel.setup`, `Kernel.destroy` | `Bindings::io_setup`, `Bindings::io_destroy` |
| `Kernel.submit`, `Kernel.getEvents` | `Bindings::io_submit`, `Bindings::io_getevents` |
| `Kernel.eventfd`, `Kernel.read`, `Kernel.close` | `Bindings::eventfd`, `Bindings::eventfd_read`, `Bindings::close` |
| `Kernel.mount` | the call of `mount` in `mount_function_at` |
| `Kernel.grants` | `try_reserve_exact` and `Platform::allocate_region`, as far as the allocator decides |
-/
namespace Gadget

/-- The answers of a kernel whose state is `κ`. -/
class Kernel (κ : Type) where
  /-- Grants an I/O context for at most `maxEvents` operations. -/
  setup (maxEvents : UInt32) : κ → Except Errno UInt64 × κ
  /-- Takes an I/O context back. -/
  destroy (id : UInt64) : κ → Except Errno Unit × κ
  /-- Takes descriptors from the front of a batch and reports how many. -/
  submit (id : UInt64) (batch : List Descriptor) : κ → Except Errno Nat × κ
  /-- Reports how many records were delivered, and the records written from the front of an array
  of `room` records. -/
  getEvents (id : UInt64) (minimum room : Nat) : κ → Except Errno (Nat × List Record) × κ
  /-- Opens an eventfd whose counter is zero. -/
  eventfd : κ → Except Errno Int32 × κ
  /-- Reads eight bytes: how many came, and the number in them. -/
  read (file : Int32) : κ → Except Errno (Nat × UInt64) × κ
  /-- Closes a file. -/
  close (file : Int32) : κ → Except Errno Unit × κ
  /-- Mounts a file system of the given type on a directory; there may be no data for it. -/
  mount (source target filesystem : RawText) (flags : UInt64) (data : Option RawText) :
    κ → Except Errno Unit × κ
  /-- Whether memory can be had. Asking changes nothing, and what the answer is may change with the state
  and with every request. -/
  grants (request : MemoryRequest) : κ → Bool

/-- A kernel call and its outcome. -/
inductive Call
  | setup (maxEvents : UInt32) (outcome : Except Errno UInt64)
  | destroy (id : UInt64) (outcome : Except Errno Unit)
  | submit (id : UInt64) (batch : List Descriptor) (outcome : Except Errno Nat)
  | getEvents (id : UInt64) (minimum room : Nat) (outcome : Except Errno Nat)
  | eventfd (outcome : Except Errno Int32)
  | read (file : Int32) (outcome : Except Errno Nat)
  | close (file : Int32) (outcome : Except Errno Unit)
  | mount (source target filesystem : RawText) (flags : UInt64) (data : Option RawText)
    (outcome : Except Errno Unit)
deriving Repr

namespace Call

/-- A slot as call traces print it. -/
def slotText (s : Slot) : String := s!"{s.endpoint.toNat}.{s.buffer.toNat}"

/-- The slots of a batch as call traces print them. -/
def batchText (slots : List Slot) : String := " ".intercalate (slots.map slotText)

/-- The outcome as call traces print it: the value, or an exclamation mark and the error number. -/
def outcomeText {α : Type} (value : α → Int) : Except Errno α → String
  | .ok a => toString (value a)
  | .error e => s!"!{e.code.toInt}"

/-- Mount data as call traces print it. -/
def dataText : Option RawText → String
  | some data => data.display
  | none => "null"

/-- The call as traces print it. -/
def text : Call → String
  | setup maxEvents outcome =>
    s!"io_setup({maxEvents.toNat})={outcomeText (fun id => id.toNat) outcome}"
  | destroy id outcome => s!"io_destroy({id.toNat})={outcomeText (fun _ => 0) outcome}"
  | submit id batch outcome =>
    let slots := batchText (batch.map Descriptor.slot)
    s!"io_submit({id.toNat},[{slots}])={outcomeText Int.ofNat outcome}"
  | getEvents id minimum room outcome =>
    s!"io_getevents({id.toNat},{minimum},{room})={outcomeText Int.ofNat outcome}"
  | eventfd outcome => s!"eventfd(0,cloexec)={outcomeText Int32.toInt outcome}"
  | read file outcome => s!"read({file.toInt},8)={outcomeText Int.ofNat outcome}"
  | close file outcome => s!"close({file.toInt})={outcomeText (fun _ => 0) outcome}"
  | mount source target filesystem flags data outcome =>
    let place := s!"{source.display},{target.display},{filesystem.display}"
    s!"mount({place},{flags.toNat},{dataText data})={outcomeText (fun _ => 0) outcome}"

end Call

end Gadget
