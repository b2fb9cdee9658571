import Gadget.Machine.Kernel
/-!
# A simulated kernel

An asynchronous I/O kernel in memory. Operations move from a submitted batch into the in-flight
list and, when they complete, as records into the ready queue; an event counter grows with every
record and is what the eventfds read. Nothing blocks.

The kernel can be told to misbehave: to fail the next call of a kind, to take only part of a
batch, to report a count that is not true, to cut a read short. Each such instruction waits in a
queue and is used up by the first call it applies to. Memory runs out in two ways: no piece is larger
than `largestPiece`, and single requests can be named that are refused.
-/
namespace Gadget

/-- The kinds of kernel calls. -/
inductive CallKind
  | setup
  | destroy
  | submit
  | getEvents
  | eventfd
  | read
  | close
  | mount
deriving DecidableEq, Repr

/-- An operation that the kernel has accepted and not completed. -/
structure Operation where
  /-- The I/O context it was submitted to. -/
  context : UInt64
  descriptor : Descriptor
deriving DecidableEq, Repr

/-- The slot of the operation's buffer. -/
def Operation.slot (o : Operation) : Slot := o.descriptor.slot

/-- The state of the simulated kernel. -/
structure SimulatedKernel where
  /-- The I/O contexts that exist. -/
  contexts : List UInt64
  nextContext : UInt64
  /-- The eventfds that are open. -/
  eventfds : List Int32
  nextEventfd : Int32
  /-- How many records became ready since the last read. -/
  counter : UInt64
  /-- The operations in progress, oldest first. -/
  inFlight : List Operation
  /-- The records to deliver, oldest first. -/
  ready : List Record
  /-- The slots taken by each successful submission, oldest first. -/
  batches : List (List Slot)
  /-- How many submissions were tried. -/
  submissions : Nat
  /-- The failures to come, oldest first. -/
  failures : List (CallKind × Errno)
  /-- How many descriptors the next submissions take. -/
  submitLimits : List Nat
  /-- The counts that the next submissions report. -/
  submitReports : List Nat
  /-- The counts that the next collections report. -/
  eventReports : List Nat
  /-- The lengths of the next reads. -/
  shortReads : List Nat
  /-- The most bytes that are given out in one piece. -/
  largestPiece : Nat
  /-- The requests for memory to refuse: what for, and after how many requested regions. -/
  refusals : List (Purpose × Nat)
deriving DecidableEq, Repr

namespace SimulatedKernel

/-- A kernel that was never called. -/
def fresh : SimulatedKernel where
  contexts := []
  nextContext := 1
  eventfds := []
  nextEventfd := 100
  counter := 0
  inFlight := []
  ready := []
  batches := []
  submissions := 0
  failures := []
  submitLimits := []
  submitReports := []
  eventReports := []
  shortReads := []
  largestPiece := 0x40000000
  refusals := []

instance : Inhabited SimulatedKernel := ⟨fresh⟩

/-! ## Instructions to misbehave -/

/-- The first failure of a kind and the failures that remain without it. -/
def takeFailure (kind : CallKind) :
    List (CallKind × Errno) → Option (Errno × List (CallKind × Errno))
  | [] => none
  | (k, e) :: rest =>
    if k = kind then some (e, rest)
    else (takeFailure kind rest).map fun (found, rest) => (found, (k, e) :: rest)

/-- Answers a call of a kind: with the next failure of that kind if there is one, which changes
nothing else, and as given otherwise. -/
def answer {α : Type} (kind : CallKind)
    (otherwise : SimulatedKernel → Except Errno α × SimulatedKernel) (k : SimulatedKernel) :
    Except Errno α × SimulatedKernel :=
  match takeFailure kind k.failures with
  | some (e, failures) => (.error e, { k with failures })
  | none => otherwise k

/-! ## The calls -/

/-- Grants the next I/O context. -/
def setup (_maxEvents : UInt32) : SimulatedKernel → Except Errno UInt64 × SimulatedKernel :=
  answer .setup fun k =>
    (.ok k.nextContext,
      { k with contexts := k.contexts ++ [k.nextContext], nextContext := k.nextContext + 1 })

/-- Ends an I/O context. All operations in progress and all waiting records are gone with it. -/
def destroy (id : UInt64) (k : SimulatedKernel) : Except Errno Unit × SimulatedKernel :=
  if id ∉ k.contexts then (.error .invalid, k)
  else answer .destroy (fun k =>
    (.ok (), { k with contexts := k.contexts.filter (· ≠ id), inFlight := [], ready := [] })) k

/-- Takes descriptors from the front of a batch: as many as the next limit allows, all of them
without a limit. -/
def submit (id : UInt64) (batch : List Descriptor) (k : SimulatedKernel) :
    Except Errno Nat × SimulatedKernel :=
  let k := { k with submissions := k.submissions + 1 }
  if id ∉ k.contexts then (.error .invalid, k)
  else answer .submit (fun k =>
    let taken := batch.take (k.submitLimits.head?.getD batch.length)
    (.ok (k.submitReports.head?.getD taken.length),
      { k with
        inFlight := k.inFlight ++ taken.map (⟨id, ·⟩)
        batches := k.batches ++ [taken.map Descriptor.slot]
        submitLimits := k.submitLimits.tail
        submitReports := k.submitReports.tail })) k

/-- Delivers records from the front of the ready queue. -/
def getEvents (id : UInt64) (_minimum room : Nat) (k : SimulatedKernel) :
    Except Errno (Nat × List Record) × SimulatedKernel :=
  if id ∉ k.contexts then (.error .invalid, k)
  else answer .getEvents (fun k =>
    let delivered := k.ready.take room
    (.ok (k.eventReports.head?.getD delivered.length, delivered),
      { k with ready := k.ready.drop room, eventReports := k.eventReports.tail })) k

/-- Opens the next eventfd. -/
def eventfd : SimulatedKernel → Except Errno Int32 × SimulatedKernel :=
  answer .eventfd fun k =>
    (.ok k.nextEventfd,
      { k with eventfds := k.eventfds ++ [k.nextEventfd], nextEventfd := k.nextEventfd + 1 })

/-- Reads the event counter, which starts again from zero. A read that is cut short leaves the
counter alone; one that would have to wait is refused. -/
def read (file : Int32) (k : SimulatedKernel) : Except Errno (Nat × UInt64) × SimulatedKernel :=
  if file ∉ k.eventfds then (.error .badDescriptor, k)
  else answer .read (fun k =>
    match k.shortReads with
    | length :: shortReads => (.ok (length, 0), { k with shortReads })
    | [] =>
      if k.counter = 0 then (.error .again, k)
      else (.ok (8, k.counter), { k with counter := 0 })) k

/-- Closes an eventfd. -/
def close (file : Int32) (k : SimulatedKernel) : Except Errno Unit × SimulatedKernel :=
  if file ∉ k.eventfds then (.error .badDescriptor, k)
  else answer .close (fun k => (.ok (), { k with eventfds := k.eventfds.filter (· ≠ file) })) k

/-- Mounts anything anywhere. -/
def mount (_source _target _filesystem : RawText) (_flags : UInt64) (_data : Option RawText) :
    SimulatedKernel → Except Errno Unit × SimulatedKernel :=
  answer .mount fun k => (.ok (), k)

/-- Grants memory that is in no refusal and not too large. -/
def grants (request : MemoryRequest) (k : SimulatedKernel) : Bool :=
  request.bytes ≤ k.largestPiece ∧ (request.purpose, request.earlier) ∉ k.refusals

instance : Kernel SimulatedKernel where
  setup := setup
  destroy := destroy
  submit := submit
  getEvents := getEvents
  eventfd := eventfd
  read := read
  close := close
  mount := mount
  grants := grants

end SimulatedKernel

end Gadget
