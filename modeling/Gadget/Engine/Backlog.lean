import Gadget.Machine.Basic
/-!
# The backlog: `SubmissionQueue`

The slots of armed buffers, in the order in which they were armed. The backlog never grows past
the capacity reserved for it, and slots leave from the front.
-/
namespace Gadget

/-- Slots that wait for submission. -/
structure Backlog where
  /-- The waiting slots, oldest first. -/
  slots : List Slot
  capacity : Nat
deriving DecidableEq, Repr

namespace Backlog

/-- The bytes that one slot takes. -/
def slotWidth : Nat := 8

/-- An empty backlog, if there is memory for that many slots (`SubmissionQueue::with_capacity`). -/
def reserve {κ : Type} [Kernel κ] (capacity : Nat) (m : Machine κ) : Except TransferError Backlog :=
  (m.reserve .backlog capacity slotWidth).map fun () => ⟨[], capacity⟩

/-- How many slots wait (`len`). -/
def length (b : Backlog) : Nat := b.slots.length

/-- Whether no slot waits (`is_empty`). -/
def isEmpty (b : Backlog) : Bool := b.slots.isEmpty

/-- How many more slots fit (`remaining`). -/
def room (b : Backlog) : Nat := b.capacity - b.slots.length

/-- Appends a slot, unless the backlog is full (`push`). -/
def push (slot : Slot) (b : Backlog) : Except TransferError Backlog :=
  if b.room = 0 then .error (.full 1 0 b.capacity)
  else .ok { b with slots := b.slots ++ [slot] }

/-- Takes the first `count` slots out, all of them if there are fewer (`accept`). -/
def take (count : Nat) (b : Backlog) : List Slot × Backlog :=
  (b.slots.take count, { b with slots := b.slots.drop count })

theorem push_eq_ok_iff {slot : Slot} {a b : Backlog} :
    a.push slot = .ok b ↔ a.length < a.capacity ∧ b = { a with slots := a.slots ++ [slot] } := by
  unfold push room length
  split
  · simp; omega
  · simp only [Except.ok.injEq]; constructor
    · rintro rfl; exact ⟨by omega, rfl⟩
    · rintro ⟨_, rfl⟩; rfl

end Backlog

end Gadget
