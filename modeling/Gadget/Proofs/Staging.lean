import Gadget.Proofs.Housing
import Gadget.Proofs.Placement
/-!
# What was staged stays

Between the arming of a buffer and the completion of its transfer, the buffer holds what it held when
it was armed (`Staged`). Calls write only into completed buffers (`Effect.bytes_eq`), and the
kernel writes only into the transfer area of the operation that it completes, which lies in the
region of that operation's own buffer (`transferInto_eq`).
-/
namespace Gadget.Engine

section

variable {κ : Type} {l l' : Ledger} {e e' : Engine} {m m' : Machine κ} {s : Slot} {file : Int32}
  {b : Buffer}

/-- A buffer that stays where it is holds the bytes of its region. -/
theorem Keeps.bytesAt_eq (h : Keeps e e') (hf : e.endpoints.find? s = some (file, b))
    (hm : m'.memory.bytes b.region.number = m.memory.bytes b.region.number) :
    e'.bytesAt s m' = e.bytesAt s m := by
  obtain ⟨b', hf', hr, -⟩ := h.find? s file b hf
  rw [bytesAt_of_find? hf, bytesAt_of_find? hf', Buffer.bytes, Buffer.bytes, hr, hm]

/-- The buffers of a new endpoint hold zeros. -/
theorem Equipped.bytesAt_new {index : Nat} {plan : EndpointPlan} {buffers : List Buffer}
    (h : Equipped index plan buffers e m e' m') (hs : s.endpoint.toNat = index)
    (hb : s.buffer.toNat < plan.count) : e'.bytesAt s m' = List.replicate plan.size 0 := by
  obtain ⟨b, hget, hf⟩ := h.exists_new hs hb
  rw [bytesAt_of_find? hf, Buffer.bytes, (h.new hs hget).2.1]
  exact (Memory.new_region h.machine.cells hb).2

/-- No call changes the bytes of a buffer that is not completed. -/
theorem Effect.bytes_eq [Kernel κ] (h : Effect l e m l' e' m') (hh : Housed l e m)
    (hf : e.endpoints.find? s = some (file, b)) (hp : b.phase ≠ .completed) :
    m'.memory.bytes b.region.number = m.memory.bytes b.region.number := by
  have hlive := hh.live s file b hf
  cases h with
  | nothing => rfl
  | allocationFailed hg => exact Memory.bytes_append hg.cells hlive
  | equipped hq => exact Memory.bytes_append hq.machine.cells hlive
  | wrote hf' hp' =>
    refine Memory.bytes_overwrite_of_ne (hh.region_ne hf hf' ?_)
    rintro rfl
    rw [hf] at hf'
    cases hf'
    exact hp hp'
  | rearmed hr => rw [hr.machine]; rfl
  | submitFailed hs => rw [hs.memory]
  | submitted hs => rw [hs.memory]
  | pollFailed hp => rw [hp.memory]
  | polled hp => rw [hp.memory]

end

variable {count : Nat} {l l' : Ledger} {e e' : Engine} {m m' : Machine SimulatedKernel} {s : Slot}
  {file : Int32} {b : Buffer}

/-! ## Operations -/

/-- The kernel writes what it transferred behind the header of the operation's own buffer. -/
theorem transferInto_eq (hs : Sound e) (ha : Accounted count e m) {o : Operation}
    (ho : o ∈ m.kernel.inFlight) (hf : e.endpoints.find? o.slot = some (file, b))
    (bytes : List UInt8) :
    m.transferInto (some e.context.id) o bytes = m.overwrite b.region.number b.header bytes ∧
      o.descriptor.length = b.region.size - b.header := by
  obtain ⟨hcontext, hdescriptor⟩ := ha.operation o ho
  obtain ⟨direction, hd⟩ := hs.descriptor _ _ _ hf
  rw [EndpointTable.descriptorAt_of_find? hf, hd] at hdescriptor
  exact ⟨by simp [Machine.transferInto, hcontext, hdescriptor, Buffer.transfer],
    by rw [hdescriptor]; rfl⟩

/-- No two operations are about the same buffer. -/
theorem Accounted.slot_ne (ha : Accounted count e m) {o : Operation} {before after : List Operation}
    (ho : m.kernel.inFlight = before ++ o :: after) {x : Operation} (hx : x ∈ before ++ after) :
    x.slot ≠ o.slot := by
  have hn := (List.nodup_append.1 ha.nodup).1
  rw [ho, List.map_append, List.map_cons, List.nodup_middle, ← List.map_append] at hn
  exact fun he => (List.nodup_cons.1 hn).1 (he ▸ List.mem_map_of_mem hx)

/-! ## Staged contents -/

/-- Whether a buffer waits for its transfer, in the backlog or with the kernel. -/
def Untransferred (e : Engine) (m : Machine SimulatedKernel) (s : Slot) : Prop :=
  e.endpoints.phase? s = some .armed ∨ s ∈ m.kernel.inFlight.map Operation.slot

/-- Buffers that wait for their transfer hold what they held when they were armed. -/
def Staged (l : Ledger) (e : Engine) (m : Machine SimulatedKernel) : Prop :=
  ∀ s, Untransferred e m s → l.staged s = e.bytesAt s m

theorem Untransferred.exists_find? (h : Untransferred e m s) (ha : Accounted count e m) :
    ∃ file b, e.endpoints.find? s = some (file, b) ∧ b.phase ≠ .completed := by
  rcases h with hp | hm
  · obtain ⟨file, b, hf, hb⟩ := EndpointTable.phase?_eq_some_iff.1 hp
    exact ⟨file, b, hf, by rw [hb]; decide⟩
  · obtain ⟨o, ho, rfl⟩ := List.mem_map.1 hm
    obtain ⟨file, b, hf, hb⟩ := ha.exists_find?_of_mem ho
    exact ⟨file, b, hf, by rw [hb]; decide⟩

theorem Staged.of_equipped {index : Nat} {plan : EndpointPlan} {buffers : List Buffer}
    (hs : Sound e) (hq : Equipped index plan buffers e m e' m')
    (carry : ∀ s, Untransferred e m s → (l.noteEquip index plan).staged s = l.staged s →
      (l.noteEquip index plan).staged s = e'.bytesAt s m') :
    Staged (l.noteEquip index plan) e' m' := by
  obtain ⟨-, hc, hi⟩ := hq.count_le hs
  intro s hun
  by_cases hnew : s ∈ plan.slots (.ofNat index)
  · obtain ⟨he, hb⟩ := (mem_slots hi hc s).1 hnew
    rw [Ledger.staged_noteEquip, if_pos hnew, hq.bytesAt_new he hb]
  · refine carry s ?_ (by rw [Ledger.staged_noteEquip, if_neg hnew])
    rw [Untransferred, hq.phase?_eq, if_neg (mt (mem_slots hi hc s).2 hnew), hq.machine.kernel] at hun
    exact hun

theorem Staged.of_rearmed {slot : Slot} {direction : Direction}
    (hr : Rearmed slot direction file b e m e' m')
    (carry : ∀ s, Untransferred e m s →
      (l.noteArm slot direction (e.bytesAt slot m)).staged s = l.staged s →
      (l.noteArm slot direction (e.bytesAt slot m)).staged s = e'.bytesAt s m') :
    Staged (l.noteArm slot direction (e.bytesAt slot m)) e' m' := by
  intro s hun
  by_cases hnew : s = slot
  · subst hnew
    rw [Ledger.staged_noteArm, if_pos rfl]
    exact (hr.keeps.bytesAt_eq hr.find? (by rw [hr.machine]; rfl)).symm
  · refine carry s ?_ (by rw [Ledger.staged_noteArm, if_neg hnew])
    rw [Untransferred, hr.phase?_eq, if_neg hnew, hr.machine] at hun
    exact hun

/-- A submission hands over buffers that were armed. -/
theorem Untransferred.of_submitted {taken : Nat} (hs : Sound e) (ha : Accounted count e m)
    (hsub : Submitted taken e m e' m') (h : Untransferred e' m' s) : Untransferred e m s := by
  obtain ⟨hops, -, -, -⟩ := ha.kernel_of_submitted hsub
  rw [Untransferred, hsub.phase?_eq hs, hops, List.map_append, List.mem_append,
    Accounted.slots_of_batch hs] at h
  rcases h with hp | hm | hm
  · split at hp
    · cases hp
    · exact .inl hp
  · exact .inr hm
  · exact .inl ((hs.mem_backlog s).1 (List.mem_of_mem_take hm))

theorem Untransferred.of_polled {received : Nat} {written valid : List Record}
    {refused : List (Record × TransferError)} (ha : Accounted count e m)
    (hcount : e.endpointCount ≤ count) (hp : Polled received written valid refused e m e' m')
    (h : Untransferred e' m' s) : Untransferred e m s := by
  obtain ⟨-, hops, -, -⟩ := ha.kernel_of_polled hcount hp
  rw [Untransferred, hp.phase?_eq, hops] at h
  rcases h with hp | hm
  · split at hp
    · cases hp
    · exact .inl hp
  · exact .inr hm

theorem Staged.effect (h : Staged l e m) (hs : Sound e) (hh : Housed l e m) (ha : Accounted count e m)
    (hcount : e.endpointCount ≤ count) (heff : Effect l e m l' e' m') : Staged l' e' m' := by
  -- what was waiting for its transfer was not written to
  have carry : ∀ s, Untransferred e m s → l'.staged s = l.staged s →
      l'.staged s = e'.bytesAt s m' := by
    intro s hun hl
    obtain ⟨file, b, hf, hp⟩ := hun.exists_find? ha
    rw [hl, h s hun, heff.keeps.bytesAt_eq hf (heff.bytes_eq hh hf hp)]
  cases heff with
  | nothing => exact h
  | allocationFailed hg =>
    exact fun s hun => carry s (by rwa [Untransferred, hg.kernel] at hun) rfl
  | equipped hq => exact .of_equipped hs hq carry
  | wrote hf hp => exact fun s hun => carry s hun rfl
  | rearmed hr => exact .of_rearmed hr carry
  | submitFailed hf =>
    have hu := ha.untouched_of_submitFailed hf
    exact fun s hun => carry s (by rwa [Untransferred, hu.inFlight] at hun) rfl
  | submitted hsub => exact fun s hun => carry s (hun.of_submitted hs ha hsub) rfl
  | pollFailed hp =>
    have hu := ha.untouched_of_pollFailed hp
    exact fun s hun => carry s (by rwa [Untransferred, hu.inFlight] at hun) rfl
  | polled hp => exact fun s hun => carry s (hun.of_polled ha hcount hp) rfl

/-- A completion changes no buffer but the operation's. -/
theorem bytesAt_afterCompletion (hs : Sound e) (hh : Housed l e m) (ha : Accounted count e m)
    {o : Operation} (ho : o ∈ m.kernel.inFlight) (rest : List Operation) (bytes : List UInt8)
    (result : Int64) (hne : s ≠ o.slot) (hf : e.endpoints.find? s = some (file, b)) :
    e.bytesAt s (m.afterCompletion (some e.context.id) o rest bytes result) = e.bytesAt s m := by
  obtain ⟨file', b', hf', -⟩ := ha.exists_find?_of_mem ho
  refine (Keeps.refl e).bytesAt_eq hf ?_
  simp only [Machine.afterCompletion, (transferInto_eq hs ha ho hf' bytes).1, Machine.overwrite]
  exact Memory.bytes_overwrite_of_ne (hh.region_ne hf hf' hne)

theorem Staged.progress (h : Staged l e m) (hs : Sound e) (hh : Housed l e m)
    (ha : Accounted count e m) (hp : m.Progress (some e.context.id) count l l' m') :
    Staged l' e m' := by
  cases hp with
  | quiet hk hm =>
    intro s hun
    rw [Untransferred, hk.inFlight] at hun
    obtain ⟨file, b, hf, -⟩ := Untransferred.exists_find? hun ha
    rw [h s hun, (Keeps.refl e).bytesAt_eq hf (Memory.bytes_congr hm _)]
  | injected hr => exact h
  | @completed o before after bytes result ho hb =>
    intro s hun
    have hmem : o ∈ m.kernel.inFlight := by simp [ho]
    -- the completed operation is gone, so what still waits is another buffer
    have hold : Untransferred e m s ∧ s ≠ o.slot := by
      rcases hun with hp | hm
      · refine ⟨.inl hp, ?_⟩
        rintro rfl
        rw [ha.phase?_of_mem hmem] at hp
        cases hp
      · obtain ⟨x, hx, rfl⟩ := List.mem_map.1 hm
        have hx' : x ∈ m.kernel.inFlight := ho ▸ SimulatedKernel.mem_of_mem_remaining hx
        exact ⟨.inr (List.mem_map_of_mem hx'), ha.slot_ne ho hx⟩
    obtain ⟨file, b, hf, -⟩ := hold.1.exists_find? ha
    rw [bytesAt_afterCompletion hs hh ha hmem _ _ _ hold.2 hf]
    exact h s hold.1

/-- Beside a truthful kernel, staged contents stay. -/
theorem Course.staged (h : Course (.simulated (KernelStep.IsTruthful count)) l e m)
    (hcount : e.endpointCount ≤ count) : Staged l e m := by
  induction h with
  | created hs h =>
    have hc := create_eq_ok h
    intro s hun
    obtain ⟨file, b, hf, -⟩ := hun.exists_find? (hc.accounted hs)
    rw [hc.find?_eq_none] at hf
    cases hf
  | @called l e m call h ih =>
    have heff := perform_effect h.sound call l m
    rw [heff.keeps.endpointCount] at hcount
    exact (ih hcount).effect h.sound h.housed (h.accounted hcount) hcount heff
  | @passed l l' e m m' h hw ih =>
    obtain ⟨k, hk, rfl, rfl⟩ := hw
    exact (ih hcount).progress h.sound h.housed (h.accounted hcount)
      (Machine.kernelStep_progress hk _ l m)

end Gadget.Engine
