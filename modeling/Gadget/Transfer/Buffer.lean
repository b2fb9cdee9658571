import Gadget.Memory
import Gadget.Transfer.Error
import Gadget.Transfer.Descriptor
/-!
# Transfer buffers: `Buffer`

A buffer is a region of memory, split into a header that stays out of transfers and a transfer
area, together with the descriptor of its current transfer and its phase. Every operation checks
the phase it needs; `arm` is the only one that writes the descriptor.
-/
namespace Gadget

/-- A transfer buffer. -/
structure Buffer where
  region : Region
  /-- The bytes at the front that stay out of transfers. -/
  header : Nat
  phase : Phase
  /-- The descriptor of the current transfer. -/
  descriptor : Descriptor
  /-- A header leaves room for at least one byte of transfer data. -/
  header_lt : header < region.size
deriving DecidableEq, Repr

namespace Buffer

/-- The bytes that a buffer's bookkeeping takes (the size of a `Buffer`). -/
def width : Nat := 96

/-- An idle buffer over a region (`Buffer::new`). -/
def create (region : Region) (header : Nat) : Except Defect Buffer :=
  if h : header < region.size then .ok ⟨region, header, .idle, .zero, h⟩
  else .error .headerFillsBuffer

/-- How many bytes one transfer moves (`Buffer::transfer_len`). -/
def transferLength (b : Buffer) : Nat := b.region.size - b.header

/-- The descriptor of a transfer between the buffer and a file, which notifies an eventfd. What it does not
say is zero. -/
def transfer (b : Buffer) (slot : Slot) (direction : Direction) (file notified : Int32) : Descriptor :=
  { Descriptor.zero with
    tag := slot.toTag
    opcode := direction.opcode
    file := file.toUInt32
    target := some ⟨b.region.number, b.header⟩
    length := b.transferLength
    position := 0
    flags := Descriptor.notifyFlag
    notified := notified.toUInt32 }

/-- Prepares the next transfer of a free buffer (`Buffer::arm`). -/
def arm (b : Buffer) (slot : Slot) (direction : Direction) (file notified : Int32) :
    Except TransferError Buffer :=
  if b.phase.isFree then
    .ok { b with descriptor := b.transfer slot direction file notified, phase := .armed }
  else .error (.brokenContract (.notRearmable slot b.phase))

/-- Notes that the kernel accepted the transfer (`Buffer::mark_in_flight`). -/
def launch (b : Buffer) : Except Defect Buffer :=
  if b.phase = .armed then .ok { b with phase := .inFlight } else .error (.launchedWhile b.phase)

/-- Notes that the kernel completed the transfer (`Buffer::mark_completed`). -/
def complete (b : Buffer) (slot : Slot) : Except TransferError Buffer :=
  if b.phase = .inFlight then .ok { b with phase := .completed }
  else .error (.brokenContract (.notInFlight slot b.phase))

/-- Lends the memory of a free buffer (`Buffer::data_mut`). -/
def lend (b : Buffer) : Except Defect Region :=
  if b.phase.isFree then .ok b.region else .error (.lentWhile b.phase)

/-- The bytes of the buffer, header included (`Buffer::data`). -/
def bytes (b : Buffer) (m : Memory) : List UInt8 := m.bytes b.region.number

end Buffer

end Gadget
