/-!
# Slots: `SlotKey`

A slot is the place of one transfer buffer: the index of its endpoint and its index among that
endpoint's buffers. The kernel carries the slot through every operation as one 64 bit number, its
tag, with the endpoint in the upper half, so that the order of slots is the order of their tags.
-/
namespace Gadget

/-- The place of a transfer buffer. -/
@[ext] structure Slot where
  endpoint : UInt32
  buffer : UInt32
deriving DecidableEq, Repr

namespace Slot

/-- The slot as people read it (`Display for SlotKey`). -/
def text (s : Slot) : String :=
  s!"ep{s.endpoint.toNat}/buf{s.buffer.toNat}"

/-! ## Tags -/

/-- The number under which the kernel carries the slot (`SlotKey::to_user_data`). -/
def toTag (s : Slot) : UInt64 :=
  .ofNat (s.endpoint.toNat * UInt32.size + s.buffer.toNat)

/-- The slot that a number stands for (`SlotKey::from_user_data`). Every number stands for one. -/
def ofTag (tag : UInt64) : Slot :=
  ⟨.ofNat (tag.toNat / UInt32.size), .ofNat (tag.toNat % UInt32.size)⟩

theorem toNat_toTag (s : Slot) :
    s.toTag.toNat = s.endpoint.toNat * UInt32.size + s.buffer.toNat := by
  have he := s.endpoint.toNat_lt_size
  have hb := s.buffer.toNat_lt_size
  rw [toTag, UInt64.toNat_ofNat_of_lt']
  simp only [UInt32.size, UInt64.size] at *
  omega

@[simp] theorem ofTag_toTag (s : Slot) : ofTag s.toTag = s := by
  have hb := s.buffer.toNat_lt_size
  have hd : (s.endpoint.toNat * UInt32.size + s.buffer.toNat) / UInt32.size = s.endpoint.toNat := by
    simp only [UInt32.size] at *; omega
  have hm : (s.endpoint.toNat * UInt32.size + s.buffer.toNat) % UInt32.size = s.buffer.toNat := by
    simp only [UInt32.size] at *; omega
  rw [ofTag, toNat_toTag, hd, hm, UInt32.ofNat_toNat, UInt32.ofNat_toNat]

@[simp] theorem toTag_ofTag (tag : UInt64) : (ofTag tag).toTag = tag := by
  have ht := tag.toNat_lt_size
  have hd : tag.toNat / UInt32.size < UInt32.size := by
    simp only [UInt32.size, UInt64.size] at *; omega
  have hm : tag.toNat % UInt32.size < UInt32.size := Nat.mod_lt _ (by decide)
  apply UInt64.toNat_inj.1
  rw [toNat_toTag]
  simp only [ofTag]
  rw [UInt32.toNat_ofNat_of_lt' hd, UInt32.toNat_ofNat_of_lt' hm]
  exact Nat.div_add_mod' _ _

/-! ## Order -/

/-- Slots are ordered by endpoint, then by buffer (`Ord for SlotKey`). -/
instance : LT Slot where
  lt a b := a.endpoint < b.endpoint ∨ (a.endpoint = b.endpoint ∧ a.buffer < b.buffer)

theorem lt_iff {a b : Slot} :
    a < b ↔ a.endpoint < b.endpoint ∨ (a.endpoint = b.endpoint ∧ a.buffer < b.buffer) := Iff.rfl

instance (a b : Slot) : Decidable (a < b) := decidable_of_iff _ lt_iff.symm

/-- Puts a slot into an increasing list, unless it is there already. -/
def insertSorted (s : Slot) : List Slot → List Slot
  | [] => [s]
  | x :: xs =>
    if s < x then s :: x :: xs
    else if s = x then x :: xs
    else x :: insertSorted s xs

/-- The distinct slots of a list, in increasing order. -/
def sortDistinct (slots : List Slot) : List Slot :=
  slots.foldr insertSorted []

end Slot

end Gadget
