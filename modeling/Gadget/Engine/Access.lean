import Gadget.Engine.Basic
import Gadget.Transfer.Completion
/-!
# Access to completed buffers: `extract`, `buffer_mut`, `rearm`

What the caller may do with the buffers that a poll delivered: look at them, write into them and
arm them again, by the index of the completion or by slot. None of it is possible while the kernel
owns the memory, and none of it asks anything of the kernel.
-/
namespace Gadget.Engine

variable {κ : Type}

/-! ## Looking -/

/-- The completion of an index, unless its buffer has gone to the kernel again (`extract`). -/
def inspect (index : Nat) (e : Engine) (m : Machine κ) : Except TransferError Completion :=
  match e.completed index with
  | .error err => .error err
  | .ok record =>
    match e.endpoints.locate record.slot with
    | .error err => .error err
    | .ok (file, b) =>
      if b.phase = .inFlight then .error (.brokenContract (.submittedAgain record.slot))
      else .ok ⟨record.slot, file, record.result, b.header, b.bytes m.memory⟩

/-- The completions of the last poll, in order (`completions`). -/
def delivered (e : Engine) (m : Machine κ) : List (Except TransferError Completion) :=
  (List.range e.ready).map fun index => e.inspect index m

/-! ## Writing -/

/-- The memory of the completed buffer in a slot (`slot_buffer_mut`). -/
def lend (slot : Slot) (e : Engine) : Except Fault Region :=
  match e.endpoints.locate slot with
  | .error err => .error (.error err)
  | .ok (_, b) =>
    if b.phase = .completed then
      match b.lend with
      | .error d => .error (.defect d)
      | .ok region => .ok region
    else .error (.error (.brokenContract (.notWritable slot b.phase)))

/-- The memory of the buffer of a completion (`buffer_mut`). -/
def lendAt (index : Nat) (e : Engine) : Except Fault Region :=
  match e.completed index with
  | .error err => .error (.error err)
  | .ok record => e.lend record.slot

/-- What a caller does with lent memory: it copies bytes in from a position on, and what does not fit is
dropped. The result is the length of the memory. -/
def writeInto (lent : Except Fault Region) (start : Nat) (new : List UInt8) (m : Machine κ) :
    Except Fault Nat × Machine κ :=
  match lent with
  | .error f => (.error f, m)
  | .ok region => (.ok region.size, m.overwrite region.number start new)

/-- Copies bytes into the completed buffer in a slot. -/
def write (slot : Slot) (start : Nat) (new : List UInt8) (e : Engine) (m : Machine κ) :
    Except Fault Nat × Machine κ :=
  writeInto (e.lend slot) start new m

/-- Copies bytes into the buffer of a completion. -/
def writeAt (index start : Nat) (new : List UInt8) (e : Engine) (m : Machine κ) :
    Except Fault Nat × Machine κ :=
  writeInto (e.lendAt index) start new m

/-! ## Arming again -/

/-- Arms the completed buffer in a slot for its next transfer and queues it (`rearm_slot`). -/
def rearm (slot : Slot) (direction : Direction) (e : Engine) (m : Machine κ) :
    Except TransferError Unit × Engine × Machine κ :=
  match e.endpoints.locate slot with
  | .error err => (.error err, e, m)
  | .ok (file, b) =>
    if b.phase ≠ .completed then (.error (.brokenContract (.notRearmable slot b.phase)), e, m)
    else if e.backlog.room = 0 then (.error (.full 1 e.backlog.room e.maxEvents), e, m)
    else
      match b.arm slot direction file e.doorbell.file with
      | .error err => (.error err, e, m)
      | .ok b =>
        let e := { e with endpoints := e.endpoints.replace slot b }
        match e.backlog.push slot with
        | .error err => (.error err, e, m)
        | .ok backlog => (.ok (), { e with backlog }, m.log (.rearmed slot direction))

/-- Arms the buffer of a completion again (`rearm`; `rearm_read` and `rearm_write` with their direction). -/
def rearmAt (index : Nat) (direction : Direction) (e : Engine) (m : Machine κ) :
    Except TransferError Unit × Engine × Machine κ :=
  match e.completed index with
  | .error err => (.error err, e, m)
  | .ok record => e.rearm record.slot direction m

end Gadget.Engine
