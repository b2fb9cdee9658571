import Gadget.Limits
/-!
# Memory: `allocate_zeroed_region`

The allocator's side of transfer buffers. Regions are numbered by successful allocation and keep
their number for good; `cells` holds the bytes of those not yet released. Whether a request is granted
is not decided here: a `MemoryRequest` says what memory is asked for, and whoever is asked may refuse any
of them, so that running out of memory can happen at any point.
-/
namespace Gadget

/-- A region of memory as its owner knows it. -/
structure Region where
  number : Nat
  size : Nat
deriving DecidableEq, Repr

/-- `old` with its bytes from position `at` on replaced by `new`; what does not fit is dropped. -/
def splice (start : Nat) (new old : List UInt8) : List UInt8 :=
  old.take start ++ new.take (old.length - start) ++ old.drop (start + new.length)

@[simp] theorem length_splice (start : Nat) (new old : List UInt8) :
    (splice start new old).length = old.length := by
  simp only [splice, List.length_append, List.length_take, List.length_drop]; omega

/-- What memory is for. -/
inductive Purpose
  /-- The table of an engine's endpoints. -/
  | endpointTable
  /-- The slots that wait for submission. -/
  | backlog
  /-- The descriptors of one submission. -/
  | batch
  /-- The completion records of one poll. -/
  | records
  /-- What is noted of the buffers of one endpoint. -/
  | buffers
  /-- The bytes of one buffer. -/
  | region
deriving DecidableEq, Repr

/-- A request for memory in one piece. Counting the regions that were requested before tells apart what one
call asks for the same purpose, so that each may have an answer of its own. -/
structure MemoryRequest where
  purpose : Purpose
  bytes : Nat
  /-- How many regions were requested before. -/
  earlier : Nat
deriving DecidableEq, Repr

/-- The regions of one allocator. -/
structure Memory where
  /-- The bytes of every region ever allocated; none once it is released. -/
  cells : List (Option (List UInt8))
  /-- How many regions were requested, whether granted or not. -/
  requests : Nat
deriving DecidableEq, Repr

namespace Memory

/-- Nothing is allocated. -/
def empty : Memory := ⟨[], 0⟩

/-- The bytes of a region, none of them once it is released. -/
def bytes (m : Memory) (region : Nat) : List UInt8 :=
  (m.cells[region]?.join).getD []

/-- Whether a region is allocated. -/
def isLive (m : Memory) (region : Nat) : Bool :=
  m.cells[region]?.join.isSome

/-- A region of `size` zero bytes, if it is granted. -/
def allocate (size : Nat) (granted : Bool) (m : Memory) : Option Region × Memory :=
  let counted := { m with requests := m.requests + 1 }
  if granted then
    let zeros := List.replicate size (0 : UInt8)
    (some ⟨m.cells.length, size⟩, { counted with cells := m.cells ++ [some zeros] })
  else (none, counted)

/-- Gives a region back. -/
def release (region : Nat) (m : Memory) : Memory :=
  { m with cells := m.cells.set region none }

/-- Gives several regions back. -/
def releaseAll (regions : List Nat) (m : Memory) : Memory :=
  regions.foldl (fun m region => m.release region) m

/-- Copies bytes into a region from a position on; what does not fit is dropped. -/
def overwrite (region start : Nat) (new : List UInt8) (m : Memory) : Memory :=
  { m with cells := m.cells.modify region (·.map (splice start new)) }

end Memory

end Gadget
