import Gadget.Proofs.Atomicity
/-!
# Failures that cannot happen

The calls of an engine check more than can go wrong. A submission looks up every slot that waits, arming
a buffer again looks for room in the backlog, and the buffer operations assert the phase that they need.
Beside any kernel, whatever it reports and makes up, none of these branches is taken: the census of a sound
engine leaves room for every completed buffer (`Sound.room_of_completed`), a sweep never leaves the record
array (`sweep_eq`), and what is left of the errors are the caller's mistakes, the lack of memory and the
kernel's own refusals.
-/
namespace Gadget

namespace Refusal

theorem ofFault_ne_defect {α : Type} {answer : α → Answer} {x : Except Fault α} {d : Defect}
    (h : x ≠ .error (.defect d)) : ofFault answer x ≠ .error (.fault (.defect d)) := by
  cases x with
  | error f => simpa [ofFault] using h
  | ok a => simp [ofFault]

theorem ofError_ne_defect {α : Type} {answer : α → Answer} (x : Except TransferError α) (d : Defect) :
    ofError answer x ≠ .error (.fault (.defect d)) := by
  cases x <;> simp [ofError]

end Refusal

namespace Engine

variable {κ : Type} [Kernel κ] {e e' : Engine} {m m' : Machine κ} {slot : Slot} {file : Int32}
  {b : Buffer}

/-! ## Arming again -/

omit [Kernel κ] in
/-- While a buffer is completed, fewer buffers wait than there is room for. -/
theorem Sound.room_of_completed (hs : Sound e) (h : e.phase? slot = some .completed) :
    0 < e.backlog.room := by
  obtain ⟨file, b, hf, hp⟩ := EndpointTable.phase?_eq_some_iff.1 h
  have hpos : 0 < e.endpoints.buffers.countP (·.phase = .completed) :=
    List.countP_pos_iff.2 ⟨b, EndpointTable.mem_buffers_of_find? hf, by simpa using hp⟩
  have hcensus := hs.census
  have howned := hs.owned_le
  have hcapacity := hs.capacity_eq
  simp only [Backlog.room, Backlog.length] at *
  omega

omit [Kernel κ] in
/-- So a completed buffer is armed and waits. -/
theorem Sound.rearmed_of_completed (hs : Sound e) (direction : Direction) (m : Machine κ)
    (h : e.phase? slot = some .completed) : ∃ file b e' m',
      e.rearm slot direction m = (.ok (), e', m') ∧ Rearmed slot direction file b e m e' m' := by
  obtain ⟨file, b, hf, hp⟩ := EndpointTable.phase?_eq_some_iff.1 h
  have hroom : e.backlog.room ≠ 0 := Nat.ne_of_gt (hs.room_of_completed h)
  obtain ⟨e', m', he, hr⟩ := rearm_of_completed hf hp hroom direction m
  exact ⟨file, b, e', m', he, hr⟩

/-- What arming the buffer of a slot again comes to: the phase decides, and a full backlog is not among
the reasons to refuse. -/
def rearmOutcome (e : Engine) (slot : Slot) : Except TransferError Unit :=
  match e.phase? slot with
  | none => .error (.brokenContract (.unknownSlot slot))
  | some .completed => .ok ()
  | some phase => .error (.brokenContract (.notRearmable slot phase))

omit [Kernel κ] in
theorem Sound.rearm_eq (hs : Sound e) (slot : Slot) (direction : Direction) (m : Machine κ) :
    (e.rearm slot direction m).1 = e.rearmOutcome slot := by
  cases hf : e.endpoints.find? slot with
  | none =>
    have hp : e.phase? slot = none := by rw [phase?, hf]; rfl
    simp only [rearm, EndpointTable.locate_of_none hf, rearmOutcome, hp]
  | some x =>
    obtain ⟨file, b⟩ := x
    have hp : e.phase? slot = some b.phase := EndpointTable.phase?_of_find? hf
    by_cases hc : b.phase = .completed
    · rw [hc] at hp
      obtain ⟨_, _, _, _, he, -⟩ := hs.rearmed_of_completed direction m hp
      rw [he, rearmOutcome, hp]
    · simp only [rearm, EndpointTable.locate_of_find? hf, ne_eq, hc, not_false_eq_true, if_true,
        rearmOutcome, hp]

omit [Kernel κ] in
/-- An index below the number of completions names one. -/
theorem Sound.exists_completed (hs : Sound e) {index : Nat} (hi : index < e.ready) :
    ∃ r, e.completed index = .ok r := by
  have hlen : index < (e.records.take e.ready).length := by
    have := hs.ready_le
    simp only [maxEvents, List.length_take] at *
    omega
  exact ⟨_, by rw [completed, List.getElem?_eq_getElem hlen]⟩

/-! ## Equipping -/

/-- The reasons for which an endpoint is not equipped: it may not be, or memory cannot be had. -/
theorem equip_refused (hs : Sound e) {index : Nat} {plan : EndpointPlan} {f : Fault}
    (h : (e.equip index plan m).1 = .error f) :
    ∃ err, f = .error err ∧ (Unfit index plan e err ∨ err = .outOfMemory) := by
  rcases checkEquip_cases hs index plan with ⟨err, hc, hu⟩ | ⟨hc, -, hp, -⟩
  · simp only [equip, hc, Except.error.injEq] at h
    exact ⟨err, h.symm, .inl hu⟩
  rcases m.reserve_cases .buffers plan.count Buffer.width with hres | hres
  swap
  · simp only [equip, hc, hres, Except.error.injEq] at h
    exact ⟨_, h.symm, .inr rfl⟩
  obtain ⟨-, hh, -⟩ := EndpointPlan.check_eq_ok_iff.1 hp
  rcases acquire_spec hh plan.count 0 m with ⟨blank, m₁, hrun, -⟩ | ⟨k, m₁, hrun, -⟩
  · obtain ⟨buffers, e', m', he, -⟩ := equip_of_acquired hs hc hres hrun
    rw [he] at h
    cases h
  · simp only [equip, hc, hres, hrun, Except.error.injEq] at h
    exact ⟨_, h.symm, .inr rfl⟩

/-! ## Assertions -/

theorem equip_ne_defect (hs : Sound e) (index : Nat) (plan : EndpointPlan) (m : Machine κ) (d : Defect) :
    (e.equip index plan m).1 ≠ .error (.defect d) := by
  intro h
  obtain ⟨err, he, -⟩ := equip_refused hs h
  cases he

theorem submit_ne_defect (hs : Sound e) (m : Machine κ) (d : Defect) :
    (e.submit m).1 ≠ .error (.defect d) := by
  intro h
  obtain ⟨-, errno, he, -⟩ := submit_error hs (Prod.ext h rfl)
  cases he

theorem poll_ne_defect (hs : Sound e) (m : Machine κ) (d : Defect) :
    (e.poll m).1 ≠ .error (.defect d) := by
  rcases poll_cases hs m with ⟨errno, m', he, -⟩ | ⟨count, written, valid, refused, e', m', he, -⟩
  · simp [he]
  · rw [he]
    show pollOutcome valid refused ≠ _
    unfold pollOutcome
    split <;> simp

omit [Kernel κ] in
theorem write_ne_defect (slot : Slot) (start : Nat) (bytes : List UInt8) (e : Engine) (m : Machine κ)
    (d : Defect) : (e.write slot start bytes m).1 ≠ .error (.defect d) := by
  rcases write_cases slot start bytes e m with ⟨err, he⟩ | ⟨file, b, he, -⟩ <;> simp [he]

omit [Kernel κ] in
theorem writeAt_ne_defect (index start : Nat) (bytes : List UInt8) (e : Engine) (m : Machine κ)
    (d : Defect) : (e.writeAt index start bytes m).1 ≠ .error (.defect d) := by
  cases hc : e.completed index with
  | error err => simp [writeAt_error hc]
  | ok r => rw [writeAt_eq hc]; exact write_ne_defect r.slot start bytes e m d

/-- **No call ends in an assertion** that does not hold. -/
theorem perform_ne_defect (hs : Sound e) (call : EngineCall) (m : Machine κ) (d : Defect) :
    (e.perform call m).1 ≠ .error (.fault (.defect d)) := by
  cases call with
  | equip index plan => exact Refusal.ofFault_ne_defect (equip_ne_defect hs index plan m d)
  | submit => exact Refusal.ofFault_ne_defect (submit_ne_defect hs m d)
  | poll => exact Refusal.ofFault_ne_defect (poll_ne_defect hs m d)
  | write slot start bytes => exact Refusal.ofFault_ne_defect (write_ne_defect slot start bytes e m d)
  | writeAt index start bytes =>
    exact Refusal.ofFault_ne_defect (writeAt_ne_defect index start bytes e m d)
  | inspect index => exact Refusal.ofError_ne_defect _ d
  | rearm slot direction => exact Refusal.ofError_ne_defect _ d
  | rearmAt index direction => exact Refusal.ofError_ne_defect _ d
  | delivered => simp [perform]
  | size => simp [perform]
  | endpoint index => simp [perform]
  | phase slot => simp [perform]

theorem equipAll_ne_defect (hs : Sound e) (index : Nat) (plans : List EndpointPlan) (m : Machine κ)
    (d : Defect) : (Engine.equipAll index plans e m).1 ≠ .error (.defect d) := by
  induction plans generalizing index e m with
  | nil => simp [Engine.equipAll]
  | cons plan plans ih =>
    rcases equip_cases hs index plan m with ⟨err, k, m', he, -⟩ | ⟨buffers, e', m', he, h⟩
    · simp [Engine.equipAll, he]
    · simp only [Engine.equipAll, he]
      exact ih (h.sound hs) (index + 1) m'

/-- Nor does the creation of an engine with its endpoints. -/
theorem createEquipped_ne_defect (plans : List EndpointPlan) (m : Machine κ) (d : Defect) :
    (createEquipped plans m).1 ≠ .error (.defect d) := by
  unfold createEquipped
  split
  · simp
  · split
    · simp
    · rename_i e m₁ hc
      have hne := equipAll_ne_defect (create_eq_ok hc).sound 0 plans m₁ d
      split
      · rename_i ha
        rw [ha] at hne
        simpa using hne
      · simp

/-! ## Counts -/

/-- The differences and sums that the calls form of their counts are what they are meant to be, and the
places in the record array that a poll reads and writes are in it. -/
structure InBounds (e : Engine) (m : Machine κ) : Prop where
  maxEvents_le : e.maxEvents ≤ Limits.int32
  owned_le : e.owned ≤ e.maxEvents
  waiting_le : e.waiting ≤ e.backlog.capacity
  header_lt : ∀ b ∈ e.endpoints.buffers,
    b.header < b.region.size ∧ (b.bytes m.memory).length = b.region.size
  /-- A submission makes room for as many descriptors as the engine holds operations. -/
  batch_le : ∃ batch, e.endpoints.descriptors e.backlog.slots = .ok batch ∧ batch.length ≤ e.maxEvents
  /-- An endpoint that may be equipped does not take the number of buffers past that of operations. -/
  owned_add_le : ∀ index plan half, e.checkEquip index plan = .ok half →
    e.owned + plan.count ≤ e.maxEvents
  /-- Whatever the kernel wrote and however much it claims, a sweep stays within the record array. -/
  sweep : ∀ count written, ∃ s, s.valid ≤ e.maxEvents ∧ s.records.length = e.maxEvents ∧
    Sweep.run 0 (min count (e.array written).length) ⟨e.endpoints, e.array written, 0, none, []⟩ = .ok s

theorem sweep_eq (e : Engine) (count : Nat) (written : List Record) :
    ∃ s, s.valid ≤ e.maxEvents ∧ s.records.length = e.maxEvents ∧
      Sweep.run 0 (min count (e.array written).length) ⟨e.endpoints, e.array written, 0, none, []⟩ =
        .ok s := by
  have hle := (EndpointTable.settle_spec ((e.array written).take count) e.endpoints).sublist.length_le
  have hlen := length_array written e
  rw [List.length_take] at hle
  refine ⟨_, ?_, ?_, Sweep.run_min rfl⟩
  · simp only; omega
  · simp only [List.length_append, List.length_drop]; omega

theorem Reachable.inBounds (h : Reachable e m) : InBounds e m where
  maxEvents_le := h.sound.maxEvents_le
  owned_le := h.sound.owned_le
  waiting_le := by
    have := h.sound.length_backlog_le
    have := h.sound.owned_le
    rw [h.sound.capacity_eq, waiting, Backlog.length]
    omega
  header_lt b hb := by
    obtain ⟨l, hh⟩ := h.housed
    obtain ⟨s, file, hf⟩ := h.sound.exists_find? hb
    exact ⟨b.header_lt, hh.length_bytes hf⟩
  batch_le := by
    refine ⟨e.batch, h.sound.descriptors_eq, ?_⟩
    have := h.sound.length_backlog_le
    have := h.sound.owned_le
    rw [batch, List.length_map]
    omega
  owned_add_le index plan half hc := by
    rcases checkEquip_cases h.sound index plan with ⟨err, he, -⟩ | ⟨-, -, -, hfits⟩
    · rw [hc] at he; cases he
    · have := h.sound.owned_le
      simp only [available] at hfits
      omega
  sweep count written := sweep_eq e count written

/-! ## The law -/

/-- **The internal failures of an engine are unreachable**, beside any kernel and whatever is called. A
submission fails only with the kernel's own number. Arming a buffer again is never refused for want of
room: a completed buffer is armed, by its slot or by the index of a completion. An endpoint whose regions
are allocated is equipped, and one that may not be equipped is refused for one of four reasons. No count
overflows, no difference is negative, and no record is used outside the array. No call of an engine, nor
the creation of one, ends in an assertion that does not hold. -/
theorem Reachable.internal_failures_unreachable (h : Reachable e m) :
    (∀ f, (e.submit m).1 = .error f → ∃ errno, f = .error (.callFailed errno)) ∧
    (∀ slot direction, (e.phase? slot = some .completed → ∃ file b e' m',
        e.rearm slot direction m = (.ok (), e', m') ∧ Rearmed slot direction file b e m e' m') ∧
      ∀ requested available capacity,
        (e.rearm slot direction m).1 ≠ .error (.full requested available capacity)) ∧
    (∀ index direction, index < e.ready → ∃ r, e.completed index = .ok r ∧
      e.rearmAt index direction m = e.rearm r.slot direction m) ∧
    (∀ index plan half blank m₁, e.checkEquip index plan = .ok half →
      m.reserve .buffers plan.count Buffer.width = .ok () → acquire plan 0 plan.count m = (.ok blank, m₁) →
      (e.equip index plan m).1 = .ok ()) ∧
    (∀ index plan f, (e.equip index plan m).1 = .error f →
      ∃ err, f = .error err ∧ (Unfit index plan e err ∨ err = .outOfMemory)) ∧
    InBounds e m ∧
    (∀ call d, (e.perform call m).1 ≠ .error (.fault (.defect d))) ∧
    ∀ plans (m₀ : Machine κ) d, (createEquipped plans m₀).1 ≠ .error (.defect d) := by
  have hs := h.sound
  refine ⟨?_, ?_, ?_, ?_, fun index plan f => equip_refused hs, h.inBounds,
    fun call d => perform_ne_defect hs call m d, fun plans m₀ d => createEquipped_ne_defect plans m₀ d⟩
  · intro f hf
    rcases submit_cases hs m with ⟨-, he⟩ | ⟨errno, m', he, -⟩ | ⟨count, e', m', he, -⟩ <;>
      rw [he] at hf <;> cases hf
    exact ⟨errno, rfl⟩
  · intro slot direction
    refine ⟨hs.rearmed_of_completed direction m, fun requested available capacity => ?_⟩
    rw [hs.rearm_eq, rearmOutcome]
    split <;> simp
  · intro index direction hi
    obtain ⟨r, hr⟩ := hs.exists_completed hi
    exact ⟨r, hr, rearmAt_eq hr⟩
  · intro index plan half blank m₁ hc hres hrun
    obtain ⟨buffers, e', m', he, -⟩ := equip_of_acquired hs hc hres hrun
    rw [he]

/-- After a poll full of lies, the two buffers that it completed can be armed again, one by its slot and
one as the second completion, although the kernel said that it took three of four. -/
theorem Reachable.lies_leave_room : ∃ (e : Engine) (m : Machine SimulatedKernel), Reachable e m ∧
    e.phases = [some [.completed, .inFlight, .completed], some [.armed]] ∧ e.ready = 2 ∧
    (∃ file b e' m', e.rearm ⟨0, 0⟩ .write m = (.ok (), e', m') ∧
      Rearmed ⟨0, 0⟩ .write file b e m e' m') ∧
    (∃ r, e.completed 1 = .ok r ∧ e.rearmAt 1 .read m = e.rearm r.slot .read m) ∧
    ∀ call d, (e.perform call m).1 ≠ .error (.fault (.defect d)) := by
  have hstate : (Watched.run lyingRun).session.engine.map (fun e => (e.phases, e.ready, e.phase? ⟨0, 0⟩)) =
      some ([some [.completed, .inFlight, .completed], some [.armed]], 2, some .completed) := by
    decide +kernel
  obtain ⟨e, he, hstate⟩ := Option.map_eq_some_iff.1 hstate
  obtain ⟨hphases, hready, hphase⟩ := by simpa only [Prod.mk.injEq] using hstate
  have hr := (SingleEngine.course (by decide : SingleEngine (fun _ => True) lyingRun) he).reachable
  obtain ⟨-, hrearm, hat, -, -, -, hdefect, -⟩ := Reachable.internal_failures_unreachable hr
  exact ⟨e, _, hr, hphases, hready, (hrearm ⟨0, 0⟩ .write).1 hphase, hat 1 .read (by omega), hdefect⟩

end Engine

end Gadget
