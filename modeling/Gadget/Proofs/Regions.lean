import Gadget.Memory
import Mathlib.Data.List.Basic
/-!
# Regions through writes, allocations and releases

A region that is allocated keeps its length until it is released: an allocation adds regions behind the
others, a write replaces bytes in one region, and a release ends one. Of the bytes, a write changes only
those of its own region (`bytes_overwrite_self`, `bytes_overwrite_of_ne`), and an allocation none at all.
-/
namespace Gadget

namespace Memory

variable {m m' : Memory} {region n size : Nat}

/-- The length of a region, if it is allocated. -/
def length? (m : Memory) (region : Nat) : Option Nat := m.cells[region]?.join.map List.length

theorem isLive_eq (m : Memory) (region : Nat) : m.isLive region = (m.length? region).isSome := by
  rw [isLive, length?, Option.isSome_map]

theorem length_bytes (h : m.length? region = some size) : (m.bytes region).length = size := by
  unfold length? at h
  unfold bytes
  cases hc : m.cells[region]?.join with
  | none => simp [hc] at h
  | some cell => simpa [hc] using h

theorem lt_of_length? (h : m.length? region = some size) : region < m.cells.length := by
  by_contra hge
  rw [length?, List.getElem?_eq_none (by omega)] at h
  cases h

/-- Lengths are a matter of the memory's shape alone. -/
theorem length?_congr (h : m'.cells.map (Option.map List.length) = m.cells.map (Option.map List.length))
    (region : Nat) : m'.length? region = m.length? region := by
  have key : ∀ k : Memory, k.length? region =
      ((k.cells.map (Option.map List.length))[region]?).join := by
    intro k
    rw [length?, List.getElem?_map]
    cases k.cells[region]? <;> rfl
  rw [key, key, h]

theorem bytes_congr (h : m'.cells = m.cells) (region : Nat) : m'.bytes region = m.bytes region := by
  rw [bytes, bytes, h]

/-! ## After a write -/

/-- A write keeps every length. -/
theorem shape_overwrite (region start : Nat) (new : List UInt8) (m : Memory) :
    (m.overwrite region start new).cells.map (Option.map List.length) =
      m.cells.map (Option.map List.length) := by
  rw [overwrite]
  apply List.ext_getElem?
  intro i
  simp only [List.getElem?_map, List.getElem?_modify]
  split
  · cases m.cells[i]? with
    | none => rfl
    | some cell => cases cell <;> simp
  · simp

theorem length?_overwrite (start : Nat) (new : List UInt8) :
    (m.overwrite region start new).length? n = m.length? n :=
  length?_congr (shape_overwrite region start new m) n

theorem bytes_overwrite_self (start : Nat) (new : List UInt8) :
    (m.overwrite region start new).bytes region = splice start new (m.bytes region) := by
  simp only [bytes, overwrite, List.getElem?_modify, if_true]
  cases m.cells[region]? with
  | none => simp [splice]
  | some cell => cases cell <;> simp [splice]

theorem bytes_overwrite_of_ne {start : Nat} {new : List UInt8} (h : n ≠ region) :
    (m.overwrite region start new).bytes n = m.bytes n := by
  simp [bytes, overwrite, Ne.symm h]

/-! ## After an allocation -/

theorem length?_append {new : List (Option (List UInt8))} (h : m'.cells = m.cells ++ new)
    (hl : m.length? region = some size) : m'.length? region = some size := by
  rw [length?, h, List.getElem?_append_left (lt_of_length? hl)]; exact hl

theorem bytes_append {new : List (Option (List UInt8))} (h : m'.cells = m.cells ++ new)
    (hl : m.length? region = some size) : m'.bytes region = m.bytes region := by
  rw [bytes, h, List.getElem?_append_left (lt_of_length? hl)]; rfl

/-- Regions that were given back again leave no trace. -/
theorem cell_append_released {count : Nat} (h : m'.cells = m.cells ++ List.replicate count none)
    (region : Nat) : m'.cells[region]?.join = m.cells[region]?.join := by
  rw [h]
  by_cases hr : region < m.cells.length
  · rw [List.getElem?_append_left hr]
  · rw [List.getElem?_append_right (by omega), List.getElem?_eq_none (l := m.cells) (by omega),
      List.getElem?_replicate]
    split <;> rfl

theorem bytes_append_released {count : Nat} (h : m'.cells = m.cells ++ List.replicate count none)
    (region : Nat) : m'.bytes region = m.bytes region := by
  rw [bytes, bytes, cell_append_released h]

theorem length?_append_released {count : Nat} (h : m'.cells = m.cells ++ List.replicate count none)
    (region : Nat) : m'.length? region = m.length? region := by
  rw [length?, length?, cell_append_released h]

theorem isLive_append_released {count : Nat} (h : m'.cells = m.cells ++ List.replicate count none)
    (region : Nat) : m'.isLive region = m.isLive region := by
  rw [isLive, isLive, cell_append_released h]

/-- Beside the regions that were there, an allocation leaves only new ones. -/
theorem length?_append_cases {count : Nat}
    (h : m'.cells = m.cells ++ List.replicate count (some (List.replicate size 0)))
    (hl : m'.length? region = some n) :
    m.length? region = some n ∨ ∃ j, j < count ∧ region = m.cells.length + j := by
  have hlt := lt_of_length? hl
  rw [h, List.length_append, List.length_replicate] at hlt
  by_cases hr : region < m.cells.length
  · left
    rwa [length?, h, List.getElem?_append_left hr] at hl
  · exact .inr ⟨region - m.cells.length, by omega, by omega⟩

/-- The new regions hold zeros. -/
theorem new_region {count : Nat}
    (h : m'.cells = m.cells ++ List.replicate count (some (List.replicate size 0))) (hn : n < count) :
    m'.length? (m.cells.length + n) = some size ∧
      m'.bytes (m.cells.length + n) = List.replicate size 0 := by
  have hc : m'.cells[m.cells.length + n]? = some (some (List.replicate size 0)) := by
    rw [h, List.getElem?_append_right (by omega), Nat.add_sub_cancel_left,
      List.getElem?_replicate_of_lt hn]
  simp [length?, bytes, hc]

/-! ## After a release -/

/-- A release ends one region. -/
theorem length?_release (region n : Nat) (m : Memory) :
    (m.release region).length? n = if n = region then none else m.length? n := by
  rw [length?, release, List.getElem?_set]
  by_cases hn : n = region
  · rw [if_pos hn, if_pos hn.symm]
    split <;> rfl
  · rw [if_neg hn, if_neg (Ne.symm hn)]
    rfl

theorem length?_releaseAll (regions : List Nat) (n : Nat) (m : Memory) :
    (m.releaseAll regions).length? n = if n ∈ regions then none else m.length? n := by
  induction regions generalizing m with
  | nil => simp [releaseAll]
  | cons region regions ih =>
    have hcons : m.releaseAll (region :: regions) = (m.release region).releaseAll regions := rfl
    rw [hcons, ih, length?_release]
    by_cases hn : n = region
    · simp [hn]
    · simp [hn]

end Memory

end Gadget
