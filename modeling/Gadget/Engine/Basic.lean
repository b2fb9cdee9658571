import Gadget.Endpoint.Table
import Gadget.Engine.Backlog
import Gadget.Machine.Handle
/-!
# Transfer engines: `Context`

An engine owns the kernel resources, the endpoints with their buffers, the backlog of armed
buffers and the array of completion records. The calls that change it live in the modules beside
this one, each as a function from an engine and a machine to a result, an engine and a machine;
this module holds the type and what can be asked of an engine without changing it.
-/
namespace Gadget

/-- A transfer engine (`Context`). The scratch list of a submission has no field: it is empty at every
start of one. -/
structure Engine where
  context : IoContext
  doorbell : Doorbell
  endpoints : EndpointTable
  /-- The slots of armed buffers, in the order of arming. -/
  backlog : Backlog
  /-- The record array handed to the kernel. It keeps its length, and the kernel's records of
  earlier polls stay in it until they are overwritten. -/
  records : List Record
  /-- How many records at the front are completions of the last poll. -/
  ready : Nat
  /-- How many buffers the endpoints own. -/
  owned : Nat
deriving DecidableEq, Repr

namespace Engine

/-- How many operations the engine holds at most (`max_events`). -/
def maxEvents (e : Engine) : Nat := e.records.length

/-- How many endpoints there are, with buffers or without (`endpoint_count`). -/
def endpointCount (e : Engine) : Nat := e.endpoints.count

/-- Whether the endpoint of an index has its buffers (`is_endpoint_initialized`). -/
def isEquipped (e : Engine) (index : Nat) : Bool := (e.endpoints.endpoint? index).isSome

/-- The direction that an endpoint was equipped with (`endpoint_direction`). -/
def direction? (e : Engine) (index : Nat) : Option Direction :=
  (e.endpoints.endpoint? index).map Endpoint.direction

/-- How many armed buffers wait for submission (`pending_len`). -/
def waiting (e : Engine) : Nat := e.backlog.length

/-- The phase of the buffer in a slot (`buffer_state`). -/
def phase? (e : Engine) (slot : Slot) : Option Phase :=
  (e.endpoints.find? slot).map (·.2.phase)

/-- The phases of all buffers, endpoint by endpoint. -/
def phases (e : Engine) : List (Option (List Phase)) :=
  e.endpoints.entries.map (·.map fun p => p.buffers.map Buffer.phase)

/-- The record of a completion of the last poll (`ready_event`). -/
def completed (e : Engine) (index : Nat) : Except TransferError Record :=
  match (e.records.take e.ready)[index]? with
  | some record => .ok record
  | none => .error (.badArgument (.completionIndex index e.ready))

end Engine

end Gadget
