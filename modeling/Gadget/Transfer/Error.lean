import Gadget.SystemError
import Gadget.Transfer.Phase
import Gadget.Transfer.Slot
/-!
# Transfer errors: `Error`

Why a call of the transfer engine fails. Causes are data: a bad argument and a broken contract
each carry what was wrong, and only `message` turns it into words.

A `Defect` is something else: an internal assertion that does not hold. Both travel in a `Fault`,
so that "no call ever ends in a defect" is a statement about the engine.

| here | there |
| --- | --- |
| `outOfMemory`, `setupFailed`, `callFailed` | `Error::ResourceExhausted`, `Error::KernelSetupFailed`, `Error::Io` |
| `full`, `badArgument`, `brokenContract` | `Error::CapacityExceeded`, `Error::InvalidArgument`, `Error::ContractViolation` |
| `Defect` | the assertions in `Buffer::new`, `Buffer::mark_in_flight`, `Buffer::data_mut` and the indexing in `Context::poll` |
-/
namespace Gadget

/-- Why an argument is refused. -/
inductive ArgumentFault
  /-- An engine has between one and 2³² - 1 endpoints. -/
  | endpointCount (count : Nat)
  /-- An engine holds between one and 2³¹ - 1 operations. -/
  | maxEvents (count : Nat)
  /-- The buffer counts of all endpoints together pass a machine word. -/
  | bufferTotal
  /-- There is no endpoint of this index. -/
  | endpointIndex (index count : Nat)
  /-- An endpoint of no buffers. -/
  | noBuffers
  /-- A buffer of no bytes. -/
  | emptyBuffer
  /-- The header takes the whole buffer. -/
  | headerTooLong (header size : Nat)
  /-- One transfer is longer than the kernel can report. -/
  | transferTooLong (length : Nat)
  /-- The index does not fit half a slot. -/
  | slotHalf (index : Nat)
  /-- The last poll delivered no completion of this index. -/
  | completionIndex (index ready : Nat)
  /-- Any other reason. -/
  | described (text : String)
deriving DecidableEq, Repr

/-- Which promise between the caller, the engine and the kernel was broken. -/
inductive ContractBreach
  /-- The endpoint has buffers already. -/
  | alreadyEquipped (index : Nat)
  /-- There is no buffer in this slot. -/
  | unknownSlot (slot : Slot)
  /-- Only free buffers can be armed. -/
  | notRearmable (slot : Slot) (phase : Phase)
  /-- Only completed buffers can be written. -/
  | notWritable (slot : Slot) (phase : Phase)
  /-- The kernel completed an operation that it does not have. -/
  | notInFlight (slot : Slot) (phase : Phase)
  /-- The completed buffer has gone to the kernel again. -/
  | submittedAgain (slot : Slot)
  /-- Any other breach. -/
  | described (text : String)
deriving DecidableEq, Repr

/-- The failure of a call of the transfer engine. -/
inductive TransferError
  /-- Memory for buffers or bookkeeping cannot be had. -/
  | outOfMemory
  /-- The kernel did not grant an I/O context or an eventfd. -/
  | setupFailed (errno : Errno)
  /-- A kernel call failed; nothing was lost and the call may be repeated. -/
  | callFailed (errno : Errno)
  /-- More operations than there is room for. -/
  | full (requested available capacity : Nat)
  | badArgument (fault : ArgumentFault)
  | brokenContract (breach : ContractBreach)
deriving DecidableEq, Repr

/-- The reason in words. -/
def ArgumentFault.message : ArgumentFault → String
  | endpointCount count => s!"endpoint count {count} is out of range"
  | maxEvents count => s!"max_events {count} is out of range"
  | bufferTotal => "total buffer count overflows"
  | endpointIndex index count => s!"endpoint index {index} is out of range for {count} endpoints"
  | noBuffers => "an endpoint needs at least one buffer"
  | emptyBuffer => "buffer size must be greater than zero"
  | headerTooLong header size => s!"header of {header} bytes leaves no room in a {size} byte buffer"
  | transferTooLong length => s!"transfers of {length} bytes are too large"
  | slotHalf index =>
    s!"index {index} does not fit in a slot key: out of range integral type conversion attempted"
  | completionIndex index ready =>
    s!"completion index {index} is out of range, the last poll returned {ready}"
  | described text => text

/-- The breach in words. -/
def ContractBreach.message : ContractBreach → String
  | alreadyEquipped index => s!"endpoint {index} is already initialized"
  | unknownSlot slot => s!"{slot.text} does not identify an initialized buffer"
  | notRearmable slot phase => s!"buffer {slot.text} cannot be rearmed while {phase.name}"
  | notWritable slot phase => s!"buffer {slot.text} cannot be written while {phase.name}"
  | notInFlight slot phase =>
    s!"completion reported for buffer {slot.text} which was {phase.name}, not in flight"
  | submittedAgain slot => s!"buffer {slot.text} has been submitted again and cannot be inspected"
  | described text => text

namespace TransferError

/-- The error in words (`Display for Error`). -/
def message : TransferError → String
  | outOfMemory => "insufficient memory to reserve asynchronous I/O resources"
  | setupFailed errno => s!"kernel AIO setup failed: {errno.message}"
  | callFailed errno => s!"kernel I/O call failed: {errno.message}"
  | full requested available capacity =>
    s!"capacity exceeded: {requested} operations requested but only "
      ++ s!"{available} of {capacity} slots remain"
  | badArgument fault => s!"invalid argument: {fault.message}"
  | brokenContract breach => s!"contract violation: {breach.message}"

/-- The negative error number that stands for the error in a status code (`Error::errno`). -/
def status : TransferError → Int32
  | outOfMemory => Errno.outOfMemory.negated
  | setupFailed errno | callFailed errno => errno.negated
  | full _ _ _ => Errno.noSpace.negated
  | badArgument _ | brokenContract _ => Errno.invalid.negated

/-- The same failure as a system error: the kernel's own number where there is one (`From<Error>`). -/
def toSystemError : TransferError → SystemError
  | setupFailed errno | callFailed errno => .os errno
  | outOfMemory => .described .outOfMemory outOfMemory.message
  | badArgument fault => .described .invalidInput (badArgument fault).message
  | e@(full _ _ _) | e@(brokenContract _) => .described .other e.message

end TransferError

/-! ## Internal assertions -/

/-- An internal assertion that does not hold. -/
inductive Defect
  /-- A buffer was made whose header takes all of it. -/
  | headerFillsBuffer
  /-- A buffer was launched that was not armed. -/
  | launchedWhile (phase : Phase)
  /-- The memory of a buffer was lent that is not free. -/
  | lentWhile (phase : Phase)
  /-- A completion record was used outside the record array. -/
  | recordIndex (index length : Nat)
deriving DecidableEq, Repr

/-- The assertion in words. -/
def Defect.message : Defect → String
  | headerFillsBuffer => "header must leave room for transfer data"
  | launchedWhile phase => s!"only an armed buffer goes in flight, this one was {phase.name}"
  | lentWhile phase => s!"only a free buffer is lent, this one was {phase.name}"
  | recordIndex index length => s!"record {index} of {length} does not exist"

/-- How a call ends without a result. -/
inductive Fault
  | error (e : TransferError)
  | defect (d : Defect)
deriving DecidableEq, Repr

end Gadget
