import Gadget.Engine.Basic
/-!
# Equipping an endpoint: `Context::init_endpoint_from`

An endpoint gets its buffers in one step: all of them are allocated, armed in the endpoint's
direction and queued, or nothing changes. `checkEquip` collects the reasons for which a request is
refused before any memory is asked for, in the order in which they are reported.
-/
namespace Gadget.Engine

/-- An index as half of a slot (`to_index`). -/
def slotHalf (index : Nat) : Except TransferError UInt32 :=
  if index ≤ Limits.uint32 then .ok (UInt32.ofNat index)
  else .error (.badArgument (.slotHalf index))

/-- How many more buffers the engine can take on: `available` of `init_endpoint_from`. -/
def available (e : Engine) : Nat := min (e.maxEvents - e.owned) e.backlog.room

/-- Whether an endpoint may be equipped so; if it may, its half of the slots. -/
def checkEquip (index : Nat) (plan : EndpointPlan) (e : Engine) : Except TransferError UInt32 :=
  match e.endpoints.entries[index]? with
  | none => .error (.badArgument (.endpointIndex index e.endpointCount))
  | some (some _) => .error (.brokenContract (.alreadyEquipped index))
  | some none =>
    match plan.check with
    | .error err => .error err
    | .ok () =>
      if e.available < plan.count then .error (.full plan.count e.available e.maxEvents)
      else slotHalf index

/-- Arms buffers one after another, for the slots of an endpoint from the given index on. -/
def armAll (endpoint : UInt32) (plan : EndpointPlan) (notified : Int32) :
    Nat → List Buffer → Except TransferError (List Buffer)
  | _, [] => .ok []
  | index, b :: buffers =>
    match slotHalf index with
    | .error err => .error err
    | .ok half =>
      match b.arm ⟨endpoint, half⟩ plan.direction plan.file notified with
      | .error err => .error err
      | .ok b => (armAll endpoint plan notified (index + 1) buffers).map (b :: ·)

/-- Queues `count` slots of an endpoint from the given index on, up to the first that cannot be. -/
def enqueue (endpoint : UInt32) : Nat → Nat → Backlog → Except TransferError Unit × Backlog
  | _, 0, backlog => (.ok (), backlog)
  | index, count + 1, backlog =>
    match slotHalf index with
    | .error err => (.error err, backlog)
    | .ok half =>
      match backlog.push ⟨endpoint, half⟩ with
      | .error err => (.error err, backlog)
      | .ok backlog => enqueue endpoint (index + 1) count backlog

variable {κ : Type} [Kernel κ]

/-- Allocates `count` buffers, numbered from the given index on: the loop of `allocate_buffers`. A failure
gives back every region that was allocated before it. -/
def acquire (plan : EndpointPlan) :
    Nat → Nat → Machine κ → Except Fault (List Buffer) × Machine κ
  | _, 0, m => (.ok [], m)
  | index, count + 1, m =>
    match m.allocate plan.size with
    | (none, m) => (.error (.error .outOfMemory), m.log (.allocationFailed index plan.size))
    | (some region, m) =>
      match Buffer.create region plan.header with
      | .error d => (.error (.defect d), m.releaseAll [region.number])
      | .ok b =>
        match acquire plan (index + 1) count m with
        | (.error f, m) => (.error f, m.releaseAll [region.number])
        | (.ok buffers, m) => (.ok (b :: buffers), m)

/-- Equips the endpoint of an index: its buffers are allocated, filled with zeros, armed and
queued (`init_endpoint`). -/
def equip (index : Nat) (plan : EndpointPlan) (e : Engine) (m : Machine κ) :
    Except Fault Unit × Engine × Machine κ :=
  match e.checkEquip index plan with
  | .error err => (.error (.error err), e, m)
  | .ok endpoint =>
    match m.reserve .buffers plan.count Buffer.width with
    | .error err => (.error (.error err), e, m)
    | .ok () =>
      match acquire plan 0 plan.count m with
      | (.error f, m) => (.error f, e, m)
      | (.ok buffers, m) =>
        let regions := buffers.map (·.region.number)
        match armAll endpoint plan e.doorbell.file 0 buffers with
        | .error err => (.error (.error err), e, m.releaseAll regions)
        | .ok buffers =>
          match enqueue endpoint 0 buffers.length e.backlog with
          | (.error err, backlog) =>
            (.error (.error err), { e with backlog }, m.releaseAll regions)
          | (.ok (), backlog) =>
            let endpoints := e.endpoints.install index ⟨plan.file, plan.direction, buffers⟩
            (.ok (), { e with backlog, endpoints, owned := e.owned + plan.count },
              m.log (.equipped index plan))

end Gadget.Engine
