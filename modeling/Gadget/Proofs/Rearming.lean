import Gadget.Engine.Access
import Gadget.Proofs.Sound
/-!
# Arming a completed buffer again

`Engine.rearm` changes the buffer first and queues the slot afterwards. The push cannot fail once
room was seen (`rearm_cases`), so a refused call changes nothing. Writing asks for the same phase
and touches no more than the memory of the one buffer (`write_cases`).
-/
namespace Gadget.Engine

variable {κ : Type} {e e' : Engine} {m m' : Machine κ} {slot : Slot} {direction : Direction}

/-- What a successful call does. -/
structure Rearmed (slot : Slot) (direction : Direction) (file : Int32) (b : Buffer)
    (e : Engine) (m : Machine κ) (e' : Engine) (m' : Machine κ) : Prop where
  find? : e.endpoints.find? slot = some (file, b)
  completed : b.phase = .completed
  engine : e' = { e with
    endpoints := e.endpoints.replace slot (b.armed slot direction file e.doorbell.file)
    backlog := { e.backlog with slots := e.backlog.slots ++ [slot] } }
  machine : m' = m.log (.rearmed slot direction)

/-- A completed buffer is armed again if there is room for its slot. -/
theorem rearm_of_completed {file : Int32} {b : Buffer} (hf : e.endpoints.find? slot = some (file, b))
    (hp : b.phase = .completed) (hr : e.backlog.room ≠ 0) (direction : Direction) (m : Machine κ) :
    ∃ e' m', e.rearm slot direction m = (.ok (), e', m') ∧ Rearmed slot direction file b e m e' m' := by
  have harm := Buffer.arm_of_isFree (b := b) (by rw [hp]; rfl) slot direction file e.doorbell.file
  have hpush : e.backlog.push slot = .ok { e.backlog with slots := e.backlog.slots ++ [slot] } :=
    Backlog.push_eq_ok_iff.2 ⟨by simp only [Backlog.room, Backlog.length] at *; omega, rfl⟩
  exact ⟨_, _, by simp [rearm, EndpointTable.locate_of_find? hf, hp, hr, harm, hpush], hf, hp, rfl, rfl⟩

/-- **Arming a buffer again** fails and changes nothing, or the slot was completed and is armed and
queued. -/
theorem rearm_cases (slot : Slot) (direction : Direction) (e : Engine) (m : Machine κ) :
    (∃ err, e.rearm slot direction m = (.error err, e, m)) ∨
    (∃ file b e' m', e.rearm slot direction m = (.ok (), e', m') ∧
      Rearmed slot direction file b e m e' m') := by
  cases hf : e.endpoints.find? slot with
  | none => exact .inl ⟨_, by rw [rearm, EndpointTable.locate_of_none hf]⟩
  | some x =>
    obtain ⟨file, b⟩ := x
    have hl := EndpointTable.locate_of_find? hf
    by_cases hp : b.phase = .completed
    swap
    · exact .inl ⟨.brokenContract (.notRearmable slot b.phase), by simp [rearm, hl, hp]⟩
    by_cases hr : e.backlog.room = 0
    · exact .inl ⟨.full 1 e.backlog.room e.maxEvents, by simp [rearm, hl, hp, hr]⟩
    · exact .inr ⟨file, b, rearm_of_completed hf hp hr direction m⟩

theorem rearmAt_eq {index : Nat} {r : Record} (h : e.completed index = .ok r) :
    e.rearmAt index direction m = e.rearm r.slot direction m := by
  simp [rearmAt, h]

theorem rearmAt_error {index : Nat} {err : TransferError} (h : e.completed index = .error err) :
    e.rearmAt index direction m = (.error err, e, m) := by
  simp [rearmAt, h]

namespace Rearmed

variable {file : Int32} {b : Buffer}

theorem find?_eq (h : Rearmed slot direction file b e m e' m') (s : Slot) :
    e'.endpoints.find? s =
      if s = slot then some (file, b.armed slot direction file e.doorbell.file)
      else e.endpoints.find? s := by
  rw [h.engine]
  exact EndpointTable.find?_replace h.find? s

theorem phase?_eq (h : Rearmed slot direction file b e m e' m') (s : Slot) :
    e'.endpoints.phase? s = if s = slot then some .armed else e.endpoints.phase? s := by
  unfold EndpointTable.phase?
  rw [h.find?_eq]
  split <;> rfl

theorem phase?_slot (h : Rearmed slot direction file b e m e' m') :
    e.endpoints.phase? slot = some .completed := by
  rw [EndpointTable.phase?_of_find? h.find?, h.completed]

theorem keeps (h : Rearmed slot direction file b e m e' m') : Keeps e e' where
  context := by rw [h.engine]
  doorbell := by rw [h.engine]
  endpointCount := by rw [h.engine]; exact EndpointTable.count_replace
  find? s f a hf := by
    rw [h.find?_eq]
    split
    · rename_i hs
      rw [hs, h.find?] at hf
      cases hf
      exact ⟨_, rfl, rfl, rfl⟩
    · exact ⟨a, hf, rfl, rfl⟩

theorem sound (h : Rearmed slot direction file b e m e' m') (hs : Sound e) : Sound e' := by
  refine hs.arm [slot] (by simp) (fun s hm => ?_) h.keeps (by rw [h.engine])
    (fun s => by simpa using h.phase?_eq s) (fun s f a hf => ?_) (by rw [h.engine]; exact ⟨rfl, rfl⟩) ?_
  · rw [List.mem_singleton.1 hm, h.phase?_slot]; simp
  · rw [h.find?_eq] at hf
    split at hf
    · rename_i hn
      cases hf
      exact ⟨direction, by rw [hn]; rfl⟩
    · exact hs.descriptor s f a hf
  · rw [h.engine, EndpointTable.length_buffers_replace]
    exact ⟨hs.owned_eq, hs.owned_le⟩

end Rearmed

/-! ## Writing -/

theorem lend_cases (slot : Slot) (e : Engine) :
    (∃ err, e.lend slot = .error (.error err)) ∨
    (∃ file b, e.lend slot = .ok b.region ∧ e.endpoints.find? slot = some (file, b) ∧
      b.phase = .completed) := by
  unfold lend
  cases hf : e.endpoints.find? slot with
  | none => exact .inl ⟨_, by rw [EndpointTable.locate_of_none hf]⟩
  | some x =>
    obtain ⟨file, b⟩ := x
    rw [EndpointTable.locate_of_find? hf]
    by_cases hp : b.phase = .completed
    · refine .inr ⟨file, b, ?_, rfl, hp⟩
      simp [hp, Buffer.lend, Phase.isFree]
    · exact .inl ⟨.brokenContract (.notWritable slot b.phase), by simp [hp]⟩

/-- **Writing** fails and changes nothing, or goes into the memory of a completed buffer. -/
theorem write_cases (slot : Slot) (start : Nat) (bytes : List UInt8) (e : Engine) (m : Machine κ) :
    (∃ err, e.write slot start bytes m = (.error (.error err), m)) ∨
    (∃ file b, e.write slot start bytes m =
        (.ok b.region.size, m.overwrite b.region.number start bytes) ∧
      e.endpoints.find? slot = some (file, b) ∧ b.phase = .completed) := by
  unfold write
  rcases lend_cases slot e with ⟨err, h⟩ | ⟨file, b, h, hf, hp⟩
  · exact .inl ⟨err, by rw [h]; rfl⟩
  · exact .inr ⟨file, b, by rw [h]; rfl, hf, hp⟩

theorem writeAt_eq {index start : Nat} {bytes : List UInt8} {r : Record}
    (h : e.completed index = .ok r) :
    e.writeAt index start bytes m = e.write r.slot start bytes m := by
  simp [writeAt, lendAt, write, h]

theorem writeAt_error {index start : Nat} {bytes : List UInt8} {err : TransferError}
    (h : e.completed index = .error err) :
    e.writeAt index start bytes m = (.error (.error err), m) := by
  simp [writeAt, lendAt, writeInto, h]

end Gadget.Engine
