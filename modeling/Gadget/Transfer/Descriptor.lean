import Gadget.Transfer.Direction
import Gadget.Transfer.Slot
/-!
# Descriptors and records: `Iocb` and `IoEvent`

What passes between the engine and the kernel: a `Descriptor` asks for a transfer, a `Record`
reports the end of one. Memory is named by region and offset. The tag of a descriptor is copied
into the record of its completion, which is all that ties the two together.

| here | there |
| --- | --- |
| `tag`, `key`, `rwFlags`, `opcode`, `priority` | `aio_data`, `aio_key`, `aio_rw_flags`, `aio_lio_opcode`, `aio_reqprio` |
| `file`, `target`, `length`, `position` | `aio_fildes`, `aio_buf`, `aio_nbytes`, `aio_offset` |
| `reserved`, `flags`, `notified` | `aio_reserved2`, `aio_flags`, `aio_resfd` |
| `Record` | `data`, `obj`, `res`, `res2` |
-/
namespace Gadget

/-- A place in memory: a region and an offset into it. -/
structure Address where
  region : Nat
  offset : Nat
deriving DecidableEq, Repr

/-- A request for a transfer. -/
structure Descriptor where
  /-- Returned unchanged with the completion. -/
  tag : UInt64
  /-- The kernel's own mark on a descriptor that was submitted. -/
  key : UInt32
  /-- How the transfer differs from a plain one. -/
  rwFlags : Int32
  opcode : UInt16
  priority : Int16
  /-- The file to transfer from or to. -/
  file : UInt32
  /-- Where the transferred bytes lie; nowhere in a descriptor that was never armed. -/
  target : Option Address
  /-- How many bytes to transfer. -/
  length : Nat
  /-- The position in the file; endpoints have none. -/
  position : Int64
  reserved : UInt64
  flags : UInt32
  /-- The eventfd to notify. -/
  notified : UInt32
deriving DecidableEq, Repr

namespace Descriptor

/-- The descriptor of a buffer that was never armed (`Iocb::default`). -/
def zero : Descriptor where
  tag := 0
  key := 0
  rwFlags := 0
  opcode := 0
  priority := 0
  file := 0
  target := none
  length := 0
  position := 0
  reserved := 0
  flags := 0
  notified := 0

/-- Asks the kernel to notify an eventfd of the completion (`IOCB_FLAG_RESFD`). -/
def notifyFlag : UInt32 := 1

/-- The slot to which the descriptor belongs. -/
def slot (d : Descriptor) : Slot := .ofTag d.tag

end Descriptor

/-- The kernel's report that a transfer ended. -/
structure Record where
  tag : UInt64
  /-- The descriptor as the kernel knows it; nothing is made of it. -/
  object : UInt64
  /-- The byte count, or a negated error number. -/
  result : Int64
  /-- Reserved. -/
  result2 : Int64
deriving DecidableEq, Repr

namespace Record

/-- A record that was never filled (`IoEvent::default`). -/
def zero : Record := ⟨0, 0, 0, 0⟩

/-- The slot that the record is about. -/
def slot (r : Record) : Slot := .ofTag r.tag

end Record

end Gadget
