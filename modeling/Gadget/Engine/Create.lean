import Gadget.Engine.Basic
/-!
# Creating an engine: `Context::with_platform`

Arguments are checked first, then memory for the bookkeeping is reserved, and only then is the
kernel asked for anything. An engine whose doorbell cannot be opened gives its I/O context back.
-/
namespace Gadget.Engine

/-- The bytes that one completion record takes. -/
def recordWidth : Nat := 32

/-- The bytes that one entry of a submission batch takes. -/
def batchWidth : Nat := 8

/-- Whether an engine may be of this size. -/
def checkSize (endpointCount maxEvents : Nat) : Except TransferError Unit :=
  if endpointCount = 0 ∨ Limits.uint32 < endpointCount then
    .error (.badArgument (.endpointCount endpointCount))
  else if maxEvents = 0 ∨ Limits.int32 < maxEvents then
    .error (.badArgument (.maxEvents maxEvents))
  else .ok ()

variable {κ : Type} [Kernel κ]

/-- The bookkeeping of an engine: its endpoint table, its backlog and a record array that was never filled.
There has to be memory for a batch as well. -/
def reserve (endpointCount maxEvents : Nat) (m : Machine κ) :
    Except TransferError (EndpointTable × Backlog × List Record) := do
  checkSize endpointCount maxEvents
  m.reserve .endpointTable endpointCount EndpointTable.width
  let backlog ← Backlog.reserve maxEvents m
  m.reserve .batch maxEvents batchWidth
  m.reserve .records maxEvents recordWidth
  return (.vacant endpointCount, backlog, List.replicate maxEvents .zero)

/-- An engine for the given number of endpoints, none of them equipped, that holds at most
`maxEvents` operations (`Context::new`). -/
def create (endpointCount maxEvents : Nat) (m : Machine κ) :
    Except TransferError Engine × Machine κ :=
  match reserve endpointCount maxEvents m with
  | .error e => (.error e, m)
  | .ok (endpoints, backlog, records) =>
    match IoContext.create (UInt32.ofNat maxEvents) m with
    | (.error e, m) => (.error e, m)
    | (.ok context, m) =>
      match Doorbell.create m with
      | (.error e, m) => (.error e, context.drop m)
      | (.ok doorbell, m) =>
        (.ok ⟨context, doorbell, endpoints, backlog, records, 0, 0⟩,
          m.log (.createdEngine endpointCount maxEvents doorbell.file))

end Gadget.Engine
