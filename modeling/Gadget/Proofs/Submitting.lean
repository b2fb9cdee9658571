import Gadget.Engine.Submit
import Gadget.Proofs.Sound
/-!
# Submitting takes a prefix of the backlog

Of the failures that `Engine.submit` allows for, a sound engine has one: the kernel's
(`submit_cases`). Then nothing changed. Otherwise exactly the accepted prefix leaves the backlog and
goes in flight, also if the kernel claims to have taken more than it was offered.
-/
namespace Gadget.Engine

variable {κ : Type} [Kernel κ] {e e' : Engine} {m m' : Machine κ} {count : Nat}

/-- What a submission offers the kernel. -/
def batch (e : Engine) : List Descriptor := e.backlog.slots.map e.endpoints.descriptorAt

/-- What a successful submission does, of which the kernel reports to have taken `count`. -/
structure Submitted (count : Nat) (e : Engine) (m : Machine κ) (e' : Engine) (m' : Machine κ) :
    Prop where
  kernel : Kernel.submit e.context.id e.batch m.kernel = (.ok count, m'.kernel)
  endpoints : EndpointTable.Moved (e.backlog.slots.take count) .inFlight e.endpoints e'.endpoints
  backlog : e'.backlog = { e.backlog with slots := e.backlog.slots.drop count }
  handles : e'.context = e.context ∧ e'.doorbell = e.doorbell
  records : e'.records = e.records ∧ e'.ready = e.ready
  owned : e'.owned = e.owned
  memory : m'.memory = m.memory
  calls : m'.calls = m.calls ++ [.submit e.context.id e.batch (.ok count)]

/-- What a submission does that the kernel refused. -/
structure SubmitFailed (errno : Errno) (e : Engine) (m m' : Machine κ) : Prop where
  kernel : Kernel.submit e.context.id e.batch m.kernel = (.error errno, m'.kernel)
  memory : m'.memory = m.memory
  calls : m'.calls = m.calls ++ [.submit e.context.id e.batch (.error errno)]

/-- Every waiting slot has a descriptor to offer. -/
theorem Sound.descriptors_eq (hs : Sound e) :
    e.endpoints.descriptors e.backlog.slots = .ok e.batch := by
  refine EndpointTable.descriptors_eq ?_
  intro s hm
  obtain ⟨file, b, hf, -⟩ := hs.find?_of_mem_backlog hm
  simp [hf]

/-- The batch is never too long for the kernel. -/
theorem Sound.submit_batch_eq (hs : Sound e) (m : Machine κ) :
    e.context.submit e.batch m = ((Kernel.submit e.context.id e.batch m.kernel).1,
      m.called (.submit e.context.id e.batch (Kernel.submit e.context.id e.batch m.kernel).1)
        (Kernel.submit e.context.id e.batch m.kernel).2) := by
  have hlen : ¬ Limits.int64 < e.batch.length := by
    have := hs.length_backlog_le
    have := hs.owned_le
    have := hs.maxEvents_le
    simp only [batch, List.length_map, Limits.int32, Limits.int64] at *
    omega
  simp only [IoContext.submit, Machine.submit, if_neg hlen]

theorem take_min_backlog (count : Nat) (e : Engine) :
    e.backlog.take (min count e.backlog.length) =
      (e.backlog.slots.take count, { e.backlog with slots := e.backlog.slots.drop count }) := by
  simp only [Backlog.take, Backlog.length, ← List.take_eq_take_min, Prod.mk.injEq,
    Backlog.mk.injEq, true_and, and_true]
  exact List.drop_eq_drop_iff.2 (by omega)

/-- **Submitting from a sound engine** makes no call when nothing waits, is refused by the kernel, or
moves the accepted prefix. -/
theorem submit_cases (hs : Sound e) (m : Machine κ) :
    (e.backlog.slots = [] ∧ e.submit m = (.ok 0, e, m)) ∨
    (∃ errno m', e.submit m = (.error (.error (.callFailed errno)), e, m') ∧
      SubmitFailed errno e m m') ∨
    (∃ count e' m', e.submit m = (.ok (min count e.backlog.length), e', m') ∧
      Submitted count e m e' m') := by
  cases hq : e.backlog.slots with
  | nil => exact .inl ⟨rfl, by simp [submit, Backlog.isEmpty, hq]⟩
  | cons s ss =>
    have hne : e.backlog.isEmpty = false := by simp [Backlog.isEmpty, hq]
    have hcall := hs.submit_batch_eq m
    right
    cases hk : Kernel.submit e.context.id e.batch m.kernel with
    | mk outcome k =>
      rw [hk] at hcall
      cases outcome with
      | error errno =>
        exact .inl ⟨errno, m.called (.submit e.context.id e.batch (.error errno)) k,
          by simp [submit, hne, hs.descriptors_eq, hcall], hk, rfl, rfl⟩
      | ok count =>
        obtain ⟨t, ht, hm⟩ := EndpointTable.launch_spec
          (hs.backlog_nodup.sublist (List.take_sublist count e.backlog.slots))
          fun s hm => (hs.mem_backlog s).1 (List.mem_of_mem_take hm)
        refine .inr ⟨count, _, _, by
          simp only [submit, hne, hs.descriptors_eq, hcall, take_min_backlog, ht, Bool.false_eq_true,
            if_false]; rfl, ?_⟩
        exact ⟨hk, hm, rfl, ⟨rfl, rfl⟩, ⟨rfl, rfl⟩, rfl, rfl, rfl⟩

/-! ## What it keeps -/

namespace Submitted

theorem keeps (h : Submitted count e m e' m') : Keeps e e' :=
  .of_moved h.handles.1 h.handles.2 h.endpoints

theorem phase?_eq (h : Submitted count e m e' m') (hs : Sound e) (s : Slot) :
    e'.endpoints.phase? s =
      if s ∈ e.backlog.slots.take count then some .inFlight else e.endpoints.phase? s := by
  rw [h.endpoints.phase?_eq]
  split
  · rename_i hm
    rw [(hs.mem_backlog s).1 (List.mem_of_mem_take hm)]; rfl
  · rfl

/-- A slot is in the accepted prefix or in the rest, not in both. -/
theorem mem_drop_iff (hs : Sound e) (s : Slot) (count : Nat) :
    s ∈ e.backlog.slots.drop count ↔ s ∈ e.backlog.slots ∧ s ∉ e.backlog.slots.take count := by
  have hn := hs.backlog_nodup
  rw [← List.take_append_drop count e.backlog.slots] at hn
  have hd := (List.nodup_append.1 hn).2.2
  constructor
  · intro hm
    exact ⟨List.mem_of_mem_drop hm, fun ht => hd s ht s hm rfl⟩
  · rintro ⟨hm, ht⟩
    rw [← List.take_append_drop count e.backlog.slots, List.mem_append] at hm
    exact hm.resolve_left ht

theorem sound (h : Submitted count e m e' m') (hs : Sound e) : Sound e' where
  backlog_nodup := by rw [h.backlog]; exact hs.backlog_nodup.sublist (List.drop_sublist _ _)
  mem_backlog s := by
    rw [h.backlog, mem_drop_iff hs, h.phase?_eq hs, hs.mem_backlog]
    split
    · rename_i hm; simp [hm]
    · rename_i hm; simp [hm]
  not_idle s hp := by
    rw [h.phase?_eq hs] at hp
    split at hp
    · cases hp
    · exact hs.not_idle s hp
  descriptor := hs.descriptor_of_moved h.handles.2 h.endpoints
  owned_eq := by rw [h.owned, h.endpoints.length, hs.owned_eq]
  owned_le := by rw [h.owned, maxEvents, h.records.1]; exact hs.owned_le
  capacity_eq := by rw [h.backlog, maxEvents, h.records.1]; exact hs.capacity_eq
  maxEvents_le := by rw [maxEvents, h.records.1]; exact hs.maxEvents_le
  endpointCount_le := by rw [h.keeps.endpointCount]; exact hs.endpointCount_le
  ready_le := by rw [maxEvents, h.records.1, h.records.2]; exact hs.ready_le
  ready_nodup := by rw [h.records.1, h.records.2]; exact hs.ready_nodup
  ready_found r hr := by
    rw [h.records.1, h.records.2] at hr
    rw [h.phase?_eq hs]
    split
    · rfl
    · exact hs.ready_found r hr

end Submitted

end Gadget.Engine
