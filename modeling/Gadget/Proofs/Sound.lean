import Gadget.Engine.Basic
import Gadget.Proofs.Lookup
/-!
# The invariant of an engine

`Engine.Sound` is what every call of the engine keeps, whatever the kernel answers: the backlog is
exactly the armed slots, each once; no buffer is idle; the counts agree and stay within the record
array; the completions of the last poll name distinct buffers; and the descriptor of a buffer is
always the transfer of that very buffer. `Engine.Keeps` is the frame: a call never moves a buffer,
takes it away or gives it other memory.

The modules beside this one say for each call what it can do; that it keeps the invariant then
follows without opening the call again.
-/
namespace Gadget

/-- The buffer with its next transfer prepared. -/
def Buffer.armed (slot : Slot) (direction : Direction) (file notified : Int32) (b : Buffer) : Buffer :=
  { b with descriptor := b.transfer slot direction file notified, phase := .armed }

theorem Buffer.arm_of_isFree {b : Buffer} (h : b.phase.isFree) (slot : Slot) (direction : Direction)
    (file notified : Int32) :
    b.arm slot direction file notified = .ok (b.armed slot direction file notified) := by
  simp [arm, armed, h]

/-- The descriptor of a transfer, field by field. -/
theorem Buffer.transfer_eq (b : Buffer) (slot : Slot) (direction : Direction) (file notified : Int32) :
    b.transfer slot direction file notified =
      { tag := slot.toTag
        key := 0
        rwFlags := 0
        opcode := if direction = .read then 0 else 1
        priority := 0
        file := file.toUInt32
        target := some ⟨b.region.number, b.header⟩
        length := b.region.size - b.header
        position := 0
        reserved := 0
        flags := 1
        notified := notified.toUInt32 } := by
  cases direction <;> rfl

namespace Engine

theorem phase?_eq (e : Engine) (s : Slot) : e.phase? s = e.endpoints.phase? s := rfl

/-- What holds of an engine between its calls. -/
structure Sound (e : Engine) : Prop where
  backlog_nodup : e.backlog.slots.Nodup
  mem_backlog : ∀ s, s ∈ e.backlog.slots ↔ e.endpoints.phase? s = some .armed
  not_idle : ∀ s, e.endpoints.phase? s ≠ some .idle
  /-- The descriptor of a buffer is that of a transfer between the buffer and its endpoint's file. -/
  descriptor : ∀ s file b, e.endpoints.find? s = some (file, b) →
    ∃ d, b.descriptor = b.transfer s d file e.doorbell.file
  owned_eq : e.owned = e.endpoints.buffers.length
  owned_le : e.owned ≤ e.maxEvents
  capacity_eq : e.backlog.capacity = e.maxEvents
  maxEvents_le : e.maxEvents ≤ Limits.int32
  endpointCount_le : e.endpointCount ≤ Limits.uint32
  ready_le : e.ready ≤ e.maxEvents
  /-- The completions of the last poll are about distinct buffers. -/
  ready_nodup : ((e.records.take e.ready).map Record.slot).Nodup
  ready_found : ∀ r ∈ e.records.take e.ready, (e.endpoints.phase? r.slot).isSome

/-- Every buffer of `e` is in `e'`, in its slot and with its memory. -/
structure Keeps (e e' : Engine) : Prop where
  context : e'.context = e.context
  doorbell : e'.doorbell = e.doorbell
  endpointCount : e'.endpointCount = e.endpointCount
  find? : ∀ s file b, e.endpoints.find? s = some (file, b) →
    ∃ b', e'.endpoints.find? s = some (file, b') ∧ b'.region = b.region ∧ b'.header = b.header

theorem Keeps.refl (e : Engine) : Keeps e e := ⟨rfl, rfl, rfl, fun _ _ b h => ⟨b, h, rfl, rfl⟩⟩

theorem Keeps.trans {e₁ e₂ e₃ : Engine} (h : Keeps e₁ e₂) (h' : Keeps e₂ e₃) : Keeps e₁ e₃ where
  context := h'.context.trans h.context
  doorbell := h'.doorbell.trans h.doorbell
  endpointCount := h'.endpointCount.trans h.endpointCount
  find? s file b hf := by
    obtain ⟨b₂, hf₂, hr₂, hh₂⟩ := h.find? s file b hf
    obtain ⟨b₃, hf₃, hr₃, hh₃⟩ := h'.find? s file b₂ hf₂
    exact ⟨b₃, hf₃, hr₃.trans hr₂, hh₃.trans hh₂⟩

namespace Sound

variable {e : Engine} {s : Slot} {file : Int32} {b : Buffer}

/-- A waiting slot has a buffer, and its descriptor carries the slot. -/
theorem find?_of_mem_backlog (h : Sound e) (hs : s ∈ e.backlog.slots) :
    ∃ file b, e.endpoints.find? s = some (file, b) ∧ b.phase = .armed :=
  EndpointTable.phase?_eq_some_iff.1 ((h.mem_backlog s).1 hs)

theorem slot_descriptorAt (h : Sound e) (hf : e.endpoints.find? s = some (file, b)) :
    (e.endpoints.descriptorAt s).slot = s := by
  obtain ⟨d, hd⟩ := h.descriptor s file b hf
  rw [EndpointTable.descriptorAt_of_find? hf, hd]
  exact Slot.ofTag_toTag s

theorem length_backlog_le (h : Sound e) : e.backlog.slots.length ≤ e.owned := by
  rw [h.owned_eq]
  refine EndpointTable.length_le_of_found h.backlog_nodup ?_
  intro s hs
  obtain ⟨file, b, hf, -⟩ := h.find?_of_mem_backlog hs
  simp [hf]

/-- Arming slots that were not armed, and queueing them, keeps an engine sound. -/
theorem arm {e' : Engine} (hs : Sound e) (new : List Slot) (hn : new.Nodup)
    (hfresh : ∀ s ∈ new, e.endpoints.phase? s ≠ some .armed) (hk : Keeps e e')
    (hq : e'.backlog = { e.backlog with slots := e.backlog.slots ++ new })
    (hp : ∀ s, e'.endpoints.phase? s =
      if s ∈ new then some .armed else e.endpoints.phase? s)
    (hd : ∀ s file b, e'.endpoints.find? s = some (file, b) →
      ∃ d, b.descriptor = b.transfer s d file e.doorbell.file)
    (hr : e'.records = e.records ∧ e'.ready = e.ready)
    (ho : e'.owned = e'.endpoints.buffers.length ∧ e'.owned ≤ e.maxEvents) : Sound e' where
  backlog_nodup := by
    rw [hq]
    refine List.nodup_append.2 ⟨hs.backlog_nodup, hn, ?_⟩
    intro s hs' x hx hsx
    exact hfresh x hx (hsx ▸ (hs.mem_backlog s).1 hs')
  mem_backlog s := by
    rw [hq, List.mem_append, hp, hs.mem_backlog]
    split
    · rename_i hm; simp [hm]
    · rename_i hm; simp [hm]
  not_idle s h := by
    rw [hp] at h
    split at h
    · cases h
    · exact hs.not_idle s h
  descriptor s file b hf := by rw [hk.doorbell]; exact hd s file b hf
  owned_eq := ho.1
  owned_le := by rw [maxEvents, hr.1]; exact ho.2
  capacity_eq := by rw [maxEvents, hr.1, hq]; exact hs.capacity_eq
  maxEvents_le := by rw [maxEvents, hr.1]; exact hs.maxEvents_le
  endpointCount_le := by rw [hk.endpointCount]; exact hs.endpointCount_le
  ready_le := by rw [maxEvents, hr.1, hr.2]; exact hs.ready_le
  ready_nodup := by rw [hr.1, hr.2]; exact hs.ready_nodup
  ready_found r h := by
    rw [hr.1, hr.2] at h
    rw [hp]
    split
    · rfl
    · exact hs.ready_found r h

end Sound

/-! ## Changing phases -/

theorem Keeps.of_moved {e e' : Engine} {slots : List Slot} {p : Phase} (hc : e'.context = e.context)
    (hd : e'.doorbell = e.doorbell) (h : EndpointTable.Moved slots p e.endpoints e'.endpoints) :
    Keeps e e' where
  context := hc
  doorbell := hd
  endpointCount := h.count
  find? s file b hf := by
    obtain ⟨q, hq⟩ := h.exists_find? hf
    exact ⟨b.inPhase q, hq, rfl, rfl⟩

/-- A change of phases keeps the descriptors those of the buffers' own transfers. -/
theorem Sound.descriptor_of_moved {e e' : Engine} {slots : List Slot} {p : Phase} (hs : Sound e)
    (hd : e'.doorbell = e.doorbell) (h : EndpointTable.Moved slots p e.endpoints e'.endpoints)
    (s : Slot) (file : Int32) (b : Buffer) (hf : e'.endpoints.find? s = some (file, b)) :
    ∃ d, b.descriptor = b.transfer s d file e'.doorbell.file := by
  obtain ⟨q, hq⟩ := h.find?_of_find? hf
  rw [hd]
  exact hs.descriptor s file (b.inPhase q) hq

end Engine

end Gadget
