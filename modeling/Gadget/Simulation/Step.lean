import Gadget.Simulation.Kernel
import Gadget.Machine.Basic
/-!
# What a simulated kernel does by itself

Between the calls of a program the kernel makes progress: operations complete, and records may
turn up that belong to no operation. These steps, together with the instructions to misbehave, are
the `KernelStep`s of a machine whose kernel is simulated.

The kernel writes into memory only on behalf of the engine that now exists (`owner` is the I/O
context of that engine); operations that an earlier engine left behind complete without touching
memory.
-/
namespace Gadget

/-- A step of a simulated kernel. -/
inductive KernelStep
  /-- The next call of this kind is to fail. -/
  | fail (kind : CallKind) (errno : Errno)
  /-- The next submission takes no more than so many descriptors. -/
  | limitSubmit (count : Nat)
  /-- The next submission reports this count, whatever it took. -/
  | reportSubmit (count : Nat)
  /-- The next collection reports this count, whatever it delivered. -/
  | reportEvents (count : Nat)
  /-- The next read is of this length. -/
  | shortRead (length : Nat)
  /-- The oldest operation of this slot completes: the bytes arrive in its transfer area, and its
  record becomes ready. -/
  | complete (slot : Slot) (bytes : List UInt8) (result : Int64)
  /-- A record becomes ready that belongs to no operation. -/
  | inject (tag : UInt64) (result : Int64)
  /-- No piece of memory is to have more bytes. -/
  | limitMemory (bytes : Nat)
  /-- The request for memory that comes after so many requested regions is refused. -/
  | refuse (purpose : Purpose) (earlier : Nat)
deriving DecidableEq, Repr

/-- Why a kernel step cannot happen. -/
inductive StepRefusal
  /-- No operation of this slot is in progress. -/
  | notInFlight
  /-- More bytes than the transfer moves. -/
  | tooLong
deriving DecidableEq, Repr

namespace SimulatedKernel

/-- A record becomes ready, and the counter counts it. -/
def deliver (r : Record) (k : SimulatedKernel) : SimulatedKernel :=
  { k with ready := k.ready ++ [r], counter := k.counter + 1 }

/-- The oldest operation of a slot and the operations that remain without it. -/
def takeInFlight (slot : Slot) : List Operation → Option (Operation × List Operation)
  | [] => none
  | o :: rest =>
    if o.slot = slot then some (o, rest)
    else (takeInFlight slot rest).map fun (found, rest) => (found, o :: rest)

end SimulatedKernel

namespace Machine

/-- Writes what a completed operation transferred into its transfer area. -/
def transferInto (owner : Option UInt64) (o : Operation) (bytes : List UInt8)
    (m : Machine SimulatedKernel) : Machine SimulatedKernel :=
  if owner = some o.context then
    match o.descriptor.target with
    | some place => m.overwrite place.region place.offset bytes
    | none => m
  else m

/-- Completes the oldest operation of a slot. -/
def complete (owner : Option UInt64) (slot : Slot) (bytes : List UInt8) (result : Int64)
    (m : Machine SimulatedKernel) : Except StepRefusal Unit × Machine SimulatedKernel :=
  match SimulatedKernel.takeInFlight slot m.kernel.inFlight with
  | none => (.error .notInFlight, m)
  | some (o, inFlight) =>
    if o.descriptor.length < bytes.length then (.error .tooLong, m)
    else
      let kernel := { m.kernel with inFlight }.deliver ⟨o.descriptor.tag, 0, result, 0⟩
      (.ok (), { m.transferInto owner o bytes with kernel })

/-- One step of the kernel. -/
def kernelStep (owner : Option UInt64) (step : KernelStep) (m : Machine SimulatedKernel) :
    Except StepRefusal Unit × Machine SimulatedKernel :=
  let k := m.kernel
  match step with
  | .fail kind errno =>
    (.ok (), { m with kernel := { k with failures := k.failures ++ [(kind, errno)] } })
  | .limitSubmit count =>
    (.ok (), { m with kernel := { k with submitLimits := k.submitLimits ++ [count] } })
  | .reportSubmit count =>
    (.ok (), { m with kernel := { k with submitReports := k.submitReports ++ [count] } })
  | .reportEvents count =>
    (.ok (), { m with kernel := { k with eventReports := k.eventReports ++ [count] } })
  | .shortRead length =>
    (.ok (), { m with kernel := { k with shortReads := k.shortReads ++ [length] } })
  | .complete slot bytes result => m.complete owner slot bytes result
  | .inject tag result => (.ok (), { m with kernel := k.deliver ⟨tag, 0, result, 0⟩ })
  | .limitMemory bytes => (.ok (), { m with kernel := { k with largestPiece := bytes } })
  | .refuse purpose earlier =>
    (.ok (), { m with kernel := { k with refusals := k.refusals ++ [(purpose, earlier)] } })

/-- The bytes in the transfer area of the oldest operation of a slot, if the engine that now exists
submitted it. -/
def peek (owner : Option UInt64) (slot : Slot) (m : Machine SimulatedKernel) :
    Option (List UInt8) :=
  match SimulatedKernel.takeInFlight slot m.kernel.inFlight with
  | some (o, _) =>
    if owner = some o.context then
      o.descriptor.target.map fun place =>
        ((m.memory.bytes place.region).drop place.offset).take o.descriptor.length
    else none
  | none => none

end Machine

end Gadget
