import Gadget.Transfer.Buffer
/-!
# Endpoints: `endpoint::resolve`

An endpoint owns its buffers. The table of all endpoints is indexed by the first half of a slot,
the buffers of an endpoint by the second half; `find?` follows a slot and `replace` puts a changed
buffer back, leaving every other slot alone (`find?_replace_of_ne`).
-/
namespace Gadget

/-- An endpoint with its buffers (`Endpoint`). -/
structure Endpoint where
  file : Int32
  /-- The direction of the first transfers. -/
  direction : Direction
  buffers : List Buffer
deriving DecidableEq, Repr

/-- The endpoints of an engine (`Context::endpoints`); those without buffers are not there yet. -/
structure EndpointTable where
  entries : List (Option Endpoint)
deriving DecidableEq, Repr

namespace EndpointTable

/-- The bytes that one endpoint takes in the table. -/
def width : Nat := 32

/-- A table of `count` endpoints without buffers. -/
def vacant (count : Nat) : EndpointTable := ⟨List.replicate count none⟩

/-- How many endpoints there are, with buffers or without. -/
def count (t : EndpointTable) : Nat := t.entries.length

/-- The endpoint of an index, if it has buffers. -/
def endpoint? (t : EndpointTable) (index : Nat) : Option Endpoint := t.entries[index]?.join

/-- The buffer in a slot and the file of its endpoint. -/
def find? (t : EndpointTable) (slot : Slot) : Option (Int32 × Buffer) :=
  match t.endpoint? slot.endpoint.toNat with
  | none => none
  | some e => e.buffers[slot.buffer.toNat]?.map (e.file, ·)

/-- The buffer in a slot and the file of its endpoint; a slot without a buffer is a broken
contract (`endpoint::resolve`, `endpoint::resolve_mut`). -/
def locate (t : EndpointTable) (slot : Slot) : Except TransferError (Int32 × Buffer) :=
  match t.find? slot with
  | some found => .ok found
  | none => .error (.brokenContract (.unknownSlot slot))

/-- Puts a buffer into a slot in place of the one there. -/
def replace (slot : Slot) (b : Buffer) (t : EndpointTable) : EndpointTable where
  entries := t.entries.modify slot.endpoint.toNat
    (·.map fun e => { e with buffers := e.buffers.set slot.buffer.toNat b })

/-- Puts an endpoint in the place of an index. -/
def install (index : Nat) (e : Endpoint) (t : EndpointTable) : EndpointTable where
  entries := t.entries.set index (some e)

/-- Every buffer of every endpoint. -/
def buffers (t : EndpointTable) : List Buffer :=
  t.entries.flatMap fun entry => (entry.map Endpoint.buffers).getD []

/-- How many buffers the kernel owns (`in_flight_len`). -/
def inFlight (t : EndpointTable) : Nat :=
  t.buffers.countP (·.phase = .inFlight)

/-- The regions of all buffers. -/
def regions (t : EndpointTable) : List Nat :=
  t.buffers.map (·.region.number)

/-- Notes the completion of a slot's transfer: one record of the loop in `Context::poll`. -/
def complete (slot : Slot) (t : EndpointTable) : Except TransferError EndpointTable :=
  match t.locate slot with
  | .error e => .error e
  | .ok (_, b) =>
    match b.complete slot with
    | .error e => .error e
    | .ok b => .ok (t.replace slot b)

/-- Notes that the kernel accepted the transfers of the given slots, in order, up to the first that
cannot be: the second loop of `Context::submit`. -/
def launch : List Slot → EndpointTable → Except Fault Unit × EndpointTable
  | [], t => (.ok (), t)
  | slot :: slots, t =>
    match t.locate slot with
    | .error e => (.error (.error e), t)
    | .ok (_, b) =>
      match b.launch with
      | .error d => (.error (.defect d), t)
      | .ok b => launch slots (t.replace slot b)

/-- The descriptors of the given slots, in order: the first loop of `Context::submit`. -/
def descriptors (t : EndpointTable) : List Slot → Except TransferError (List Descriptor)
  | [] => .ok []
  | slot :: slots =>
    match t.locate slot with
    | .error e => .error e
    | .ok (_, b) => (t.descriptors slots).map (b.descriptor :: ·)

/-! ## Looking up after a change -/

theorem find?_replace_self {t : EndpointTable} {slot : Slot} {file : Int32} {a b : Buffer}
    (h : t.find? slot = some (file, a)) : (t.replace slot b).find? slot = some (file, b) := by
  simp only [find?, endpoint?, replace, List.getElem?_modify] at h ⊢
  cases hs : t.entries[slot.endpoint.toNat]? with
  | none => simp [hs] at h
  | some entry =>
    cases entry with
    | none => simp [hs] at h
    | some e =>
      simp only [hs, Option.join_some] at h
      obtain ⟨b', hb, heq⟩ := Option.map_eq_some_iff.1 h
      have hlt := (List.getElem?_eq_some_iff.1 hb).1
      simp only [Prod.mk.injEq] at heq
      simp [List.getElem?_set_self hlt, heq.1]

theorem find?_replace_of_ne {t : EndpointTable} {slot other : Slot} (b : Buffer)
    (h : other ≠ slot) : (t.replace slot b).find? other = t.find? other := by
  simp only [find?, endpoint?, replace, List.getElem?_modify]
  by_cases he : slot.endpoint.toNat = other.endpoint.toNat
  · cases hs : t.entries[other.endpoint.toNat]? with
    | none => simp [he]
    | some entry =>
      cases entry with
      | none => simp [he]
      | some e =>
        have hb : slot.buffer.toNat ≠ other.buffer.toNat := by
          intro hb
          apply h
          cases slot; cases other
          simp only [Slot.mk.injEq]
          exact ⟨(UInt32.toNat_inj.1 he).symm, (UInt32.toNat_inj.1 hb).symm⟩
        simp [he, List.getElem?_set_ne hb]
  · simp [he]

end EndpointTable

end Gadget
