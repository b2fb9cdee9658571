import Gadget.Engine.Create
import Gadget.Proofs.Sound
/-!
# A new engine

Creation makes two kernel calls and touches no memory. A new engine has nothing armed, nothing in
flight and nothing to deliver, so most of what it has to satisfy holds for want of buffers.
-/
namespace Gadget.Engine

/-! ## Sizes -/

theorem checkSize_eq_ok {endpointCount maxEvents : Nat} (h : checkSize endpointCount maxEvents = .ok ()) :
    endpointCount ≤ Limits.uint32 ∧ 0 < maxEvents ∧ maxEvents ≤ Limits.int32 := by
  unfold checkSize at h
  split at h
  · cases h
  · split at h
    · cases h
    · omega

variable {κ : Type} [Kernel κ] {endpointCount maxEvents : Nat} {e : Engine} {m m' : Machine κ}

/-- The bookkeeping of a new engine is empty, and as large as was asked for, or memory has run out. -/
theorem reserve_cases (endpointCount maxEvents : Nat) (m : Machine κ) :
    (∃ err, checkSize endpointCount maxEvents = .error err ∧
      reserve endpointCount maxEvents m = .error err) ∨
    (checkSize endpointCount maxEvents = .ok () ∧
      (reserve endpointCount maxEvents m = .error .outOfMemory ∨
        reserve endpointCount maxEvents m =
          .ok (.vacant endpointCount, ⟨[], maxEvents⟩, List.replicate maxEvents .zero))) := by
  cases hsize : checkSize endpointCount maxEvents with
  | error err => exact .inl ⟨err, rfl, by rw [reserve, hsize]; rfl⟩
  | ok u =>
    refine .inr ⟨rfl, ?_⟩
    -- four requests for memory, the first of which that is refused decides
    rw [reserve, Backlog.reserve, hsize]
    rcases m.reserve_cases .endpointTable endpointCount EndpointTable.width with h | h <;> rw [h]
    swap
    · exact .inl rfl
    rcases m.reserve_cases .backlog maxEvents Backlog.slotWidth with h | h <;> rw [h]
    swap
    · exact .inl rfl
    rcases m.reserve_cases .batch maxEvents batchWidth with h | h <;> rw [h]
    swap
    · exact .inl rfl
    rcases m.reserve_cases .records maxEvents recordWidth with h | h <;> rw [h]
    · exact .inr rfl
    · exact .inl rfl

/-- Bookkeeping of a good size fails for want of memory only. -/
theorem reserve_error (hsize : checkSize endpointCount maxEvents = .ok ()) {err : TransferError}
    (h : reserve endpointCount maxEvents m = .error err) : err = .outOfMemory := by
  rcases reserve_cases endpointCount maxEvents m with ⟨err', hsize', -⟩ | ⟨-, hr | hr⟩
  · rw [hsize] at hsize'
    cases hsize'
  · rw [hr] at h
    exact (Except.error.inj h).symm
  · rw [hr] at h
    cases h

/-! ## The whole call -/

/-- What a successful creation does. -/
structure Created (endpointCount maxEvents : Nat) (m : Machine κ) (e : Engine) (m' : Machine κ) :
    Prop where
  size : checkSize endpointCount maxEvents = .ok ()
  engine : e = ⟨e.context, e.doorbell, .vacant endpointCount, ⟨[], maxEvents⟩,
    List.replicate maxEvents .zero, 0, 0⟩
  kernel : ∃ k, Kernel.setup (.ofNat maxEvents) m.kernel = (.ok e.context.id, k) ∧
    Kernel.eventfd k = (.ok e.doorbell.file, m'.kernel)
  memory : m'.memory = m.memory
  calls : m'.calls = m.calls ++
    [.setup (.ofNat maxEvents) (.ok e.context.id), .eventfd (.ok e.doorbell.file)]

theorem create_eq_ok (h : create endpointCount maxEvents m = (.ok e, m')) :
    Created endpointCount maxEvents m e m' := by
  unfold create at h
  rcases reserve_cases endpointCount maxEvents m with ⟨err, -, hr⟩ | ⟨hsize, hr | hr⟩
  · rw [hr] at h; cases h
  · rw [hr] at h; cases h
  · simp only [hr, IoContext.create, Machine.setup] at h
    cases hk : Kernel.setup (.ofNat maxEvents) m.kernel with
    | mk outcome k =>
      cases outcome with
      | error errno => simp [hk] at h
      | ok id =>
        simp only [hk, Doorbell.create, Machine.eventfd, Machine.log, Machine.called] at h
        cases hk' : Kernel.eventfd k with
        | mk outcome k' =>
          cases outcome with
          | error errno => simp [hk'] at h
          | ok file =>
            simp only [hk', Prod.mk.injEq, Except.ok.injEq] at h
            obtain ⟨rfl, rfl⟩ := h
            exact ⟨hsize, rfl, ⟨k, hk, hk'⟩, rfl, by simp⟩

namespace Created

theorem find?_eq_none (h : Created endpointCount maxEvents m e m') (s : Slot) :
    e.endpoints.find? s = none := by
  have hv : e.endpoints.endpoint? s.endpoint.toNat = none := by
    rw [h.engine, EndpointTable.endpoint?, EndpointTable.vacant, List.getElem?_replicate]
    split <;> rfl
  rw [EndpointTable.find?, hv]

theorem phase?_eq_none (h : Created endpointCount maxEvents m e m') (s : Slot) :
    e.endpoints.phase? s = none := by
  rw [EndpointTable.phase?, h.find?_eq_none]; rfl

theorem backlog_slots (h : Created endpointCount maxEvents m e m') : e.backlog.slots = [] := by
  rw [h.engine]

theorem buffers_eq_nil (h : Created endpointCount maxEvents m e m') : e.endpoints.buffers = [] := by
  rw [h.engine, EndpointTable.buffers, EndpointTable.vacant, List.flatMap_eq_nil_iff]
  intro entry he
  rw [List.eq_of_mem_replicate he]; rfl

theorem maxEvents_eq (h : Created endpointCount maxEvents m e m') : e.maxEvents = maxEvents := by
  rw [h.engine, Engine.maxEvents, List.length_replicate]

theorem sound (h : Created endpointCount maxEvents m e m') : Sound e := by
  obtain ⟨hcount, hpos, hmax⟩ := checkSize_eq_ok h.size
  have hev := h.maxEvents_eq
  refine ⟨by simp [h.backlog_slots], fun s => by simp [h.backlog_slots, h.phase?_eq_none],
    fun s => by simp [h.phase?_eq_none], fun s file b hf => ?_, ?_, ?_, ?_, by rw [hev]; exact hmax, ?_,
    ?_, ?_, fun r hr => ?_⟩
  · rw [h.find?_eq_none] at hf; cases hf
  · rw [h.buffers_eq_nil, h.engine]; rfl
  · rw [h.engine]; exact Nat.zero_le _
  · rw [hev, h.engine]
  · rw [h.engine, Engine.endpointCount, EndpointTable.count, EndpointTable.vacant, List.length_replicate]
    exact hcount
  · rw [h.engine]; exact Nat.zero_le _
  · rw [h.engine]; simp
  · rw [h.engine] at hr; simp at hr

end Created

end Gadget.Engine
