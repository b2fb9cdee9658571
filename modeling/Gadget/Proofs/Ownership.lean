import Gadget.Proofs.Delivery
/-!
# Memory that is on its way belongs to the kernel

From the arming of a buffer to the poll that delivers its completion a transfer is under way, and the
ledger can tell: the slot was armed once more than it was delivered (`Course.balanced`), beside any
kernel. No call writes into such a buffer, and once the kernel has its descriptor, every call that
reaches for the buffer is refused, by slot or by the index of an old completion
(`perform_of_reaches`). So what the kernel transfers is what was staged (`Course.area_eq`).
-/
namespace Gadget

/-- The bytes in the transfer area of a descriptor. -/
def Descriptor.area (d : Descriptor) (m : Memory) : Option (List UInt8) :=
  d.target.map fun place => ((m.bytes place.region).drop place.offset).take d.length

/-- Whether a call reaches for the buffer in a slot, by the slot or by the index of a completion that
is about it. -/
def EngineCall.Reaches (e : Engine) (s : Slot) : EngineCall → Prop
  | .write slot _ _ | .rearm slot _ => slot = s
  | .inspect index | .writeAt index _ _ | .rearmAt index _ =>
    ∃ r, e.completed index = .ok r ∧ r.slot = s
  | _ => False

/-- How many transfers of a buffer are under way in its phase: one or none. -/
def Phase.transfers : Option Phase → Nat
  | some .armed | some .inFlight => 1
  | _ => 0

namespace Ledger

/-- How often the buffer in a slot was armed. -/
def armings (s : Slot) (l : Ledger) : Nat := (l.armed.map Arming.slot).count s

/-- How often a completion of the buffer in a slot was delivered. -/
def deliveries (s : Slot) (l : Ledger) : Nat :=
  (l.delivered.filterMap fun c => c.toOption.map Completion.slot).count s

end Ledger

namespace Engine

section

variable {κ : Type} {l l' : Ledger} {e e' : Engine} {m m' : Machine κ} {s : Slot}

/-! ## Reaching for a buffer in flight -/

theorem inspect_of_inFlight {index : Nat} {r : Record} (hc : e.completed index = .ok r)
    (hp : e.endpoints.phase? r.slot = some .inFlight) (m : Machine κ) :
    e.inspect index m = .error (.brokenContract (.submittedAgain r.slot)) := by
  obtain ⟨file, b, hf, hb⟩ := EndpointTable.phase?_eq_some_iff.1 hp
  simp only [inspect, hc, EndpointTable.locate_of_find? hf, hb, if_true]

theorem write_of_inFlight (hp : e.endpoints.phase? s = some .inFlight) (start : Nat)
    (bytes : List UInt8) (m : Machine κ) :
    ∃ err, e.write s start bytes m = (.error (.error err), m) := by
  rcases write_cases s start bytes e m with h | ⟨file, b, -, hf, hb⟩
  · exact h
  · rw [EndpointTable.phase?_of_find? hf, hb] at hp
    cases hp

theorem rearm_of_inFlight (hp : e.endpoints.phase? s = some .inFlight) (direction : Direction)
    (m : Machine κ) : ∃ err, e.rearm s direction m = (.error err, e, m) := by
  rcases rearm_cases s direction e m with h | ⟨file, b, e', m', -, h⟩
  · exact h
  · rw [h.phase?_slot] at hp
    cases hp

/-- **Every call that reaches for a buffer in flight is refused** and changes nothing. -/
theorem perform_of_reaches [Kernel κ] (hp : e.endpoints.phase? s = some .inFlight) {call : EngineCall}
    (hr : call.Reaches e s) (m : Machine κ) :
    ∃ err, e.perform call m = (.error (.fault (.error err)), e, m) := by
  cases call with
  | write slot start bytes =>
    cases hr
    obtain ⟨err, he⟩ := write_of_inFlight hp start bytes m
    exact ⟨err, by simp only [perform, he, Refusal.ofFault]⟩
  | rearm slot direction =>
    cases hr
    obtain ⟨err, he⟩ := rearm_of_inFlight hp direction m
    exact ⟨err, by simp only [perform, he, Refusal.ofError]⟩
  | inspect index =>
    obtain ⟨r, hc, rfl⟩ := hr
    exact ⟨.brokenContract (.submittedAgain r.slot),
      by simp only [perform, inspect_of_inFlight hc hp, Refusal.ofError]⟩
  | writeAt index start bytes =>
    obtain ⟨r, hc, rfl⟩ := hr
    obtain ⟨err, he⟩ := write_of_inFlight hp start bytes m
    exact ⟨err, by simp only [perform, writeAt_eq hc, he, Refusal.ofFault]⟩
  | rearmAt index direction =>
    obtain ⟨r, hc, rfl⟩ := hr
    obtain ⟨err, he⟩ := rearm_of_inFlight hp direction m
    exact ⟨err, by simp only [perform, rearmAt_eq hc, he, Refusal.ofError]⟩
  | equip index plan => exact hr.elim
  | submit => exact hr.elim
  | poll => exact hr.elim
  | delivered => exact hr.elim
  | size => exact hr.elim
  | endpoint index => exact hr.elim
  | phase slot => exact hr.elim

/-! ## From arming to delivery -/

/-- How many transfers of the buffer in a slot were armed and not delivered yet. -/
def underway (s : Slot) (e : Engine) : Nat := Phase.transfers (e.endpoints.phase? s)

theorem exists_find?_of_underway (h : 0 < e.underway s) :
    ∃ file b, e.endpoints.find? s = some (file, b) ∧ b.phase ≠ .completed := by
  cases hp : e.endpoints.phase? s with
  | none => simp [underway, hp, Phase.transfers] at h
  | some p =>
    obtain ⟨file, b, hf, rfl⟩ := EndpointTable.phase?_eq_some_iff.1 hp
    refine ⟨file, b, hf, fun hc => ?_⟩
    simp [underway, hp, hc, Phase.transfers] at h

/-- Every slot was armed as often as it was delivered and, if its transfer is under way, once more. -/
def Balanced (l : Ledger) (e : Engine) : Prop := ∀ s, l.armings s = l.deliveries s + e.underway s

theorem Balanced.of_equipped {index : Nat} {plan : EndpointPlan} {buffers : List Buffer}
    (h : Balanced l e) (hs : Sound e) (hq : Equipped index plan buffers e m e' m') :
    Balanced (l.noteEquip index plan) e' := by
  obtain ⟨-, hc, hi⟩ := hq.count_le hs
  intro s
  have hnew : (plan.armings index).map Arming.slot = plan.slots (.ofNat index) := by
    rw [EndpointPlan.armings, List.map_map]
    exact List.map_id _
  have hsum : (l.noteEquip index plan).armings s =
      l.armings s + (plan.slots (.ofNat index)).count s := by
    rw [Ledger.armings, Ledger.noteEquip, List.map_append, List.count_append, hnew]; rfl
  have hphase := hq.phase?_eq s
  rw [hsum, h s, (nodup_slots _ hc).count]
  show _ = l.deliveries s + _
  split <;> rename_i hm <;> rw [mem_slots hi hc] at hm
  · rw [if_pos hm] at hphase
    have hnone : e.endpoints.phase? s = none := by
      rw [EndpointTable.phase?, hq.find?_vacant hm.1]; rfl
    rw [underway, underway, hnone, hphase]; rfl
  · rw [if_neg hm] at hphase
    rw [underway, underway, hphase]; rfl

theorem Balanced.of_rearmed {slot : Slot} {direction : Direction} {file : Int32} {b : Buffer}
    {contents : List UInt8} (h : Balanced l e) (hr : Rearmed slot direction file b e m e' m') :
    Balanced (l.noteArm slot direction contents) e' := by
  intro s
  have hsum : (l.noteArm slot direction contents).armings s =
      l.armings s + [slot].count s := by
    rw [Ledger.armings, Ledger.noteArm, List.map_append, List.count_append]; rfl
  have hphase := hr.phase?_eq s
  rw [hsum, h s]
  show _ = l.deliveries s + _
  by_cases hs : s = slot
  · subst hs
    rw [if_pos rfl] at hphase
    rw [underway, underway, hr.phase?_slot, hphase, List.count_singleton_self]; rfl
  · rw [if_neg hs] at hphase
    rw [underway, underway, hphase, List.count_eq_zero.2 (by simpa using hs)]; rfl

end

section

variable {κ : Type} [Kernel κ] {env : Environment κ} {l l' : Ledger} {e e' : Engine}
  {m m' : Machine κ} {s : Slot}

theorem Balanced.of_submitted {taken : Nat} (h : Balanced l e) (hs : Sound e)
    (hsub : Submitted taken e m e' m') : Balanced l e' := by
  intro s
  have hphase := hsub.phase?_eq hs s
  rw [h s]
  split at hphase
  · rename_i hm
    rw [underway, underway, (hs.mem_backlog s).1 (List.mem_of_mem_take hm), hphase]; rfl
  · rw [underway, underway, hphase]

theorem Balanced.of_polled {received : Nat} {written valid : List Record}
    {refused : List (Record × TransferError)} (h : Balanced l e)
    (hp : Polled received written valid refused e m e' m') :
    Balanced (l.noteDelivered (e'.delivered m')) e' := by
  intro s
  -- every completion of the poll is a report about a buffer of the engine
  have hslots : (valid.map (e'.report m')).filterMap (fun c => c.toOption.map Completion.slot) =
      valid.map Record.slot := by
    rw [List.filterMap_map, ← List.filterMap_eq_map]
    refine List.filterMap_congr ?_
    intro r hr
    obtain ⟨file, b, hf, -⟩ := EndpointTable.phase?_eq_some_iff.1 (hp.phase?_of_valid hr)
    simp [report, completionAt_of_find? hf, Except.toOption]
  have hsum : (l.noteDelivered (e'.delivered m')).deliveries s =
      l.deliveries s + (valid.map Record.slot).count s := by
    rw [Ledger.deliveries, Ledger.noteDelivered, List.filterMap_append, List.count_append,
      hp.delivered_eq, hslots]; rfl
  have hphase := hp.phase?_eq s
  show l.armings s = _
  rw [hsum, hp.settles.nodup.count, h s]
  split at hphase
  · rename_i hm
    obtain ⟨r, hr, rfl⟩ := List.mem_map.1 hm
    rw [if_pos hm, underway, underway, hp.settles.inFlight r hr, hphase]; rfl
  · rename_i hm
    rw [if_neg hm, underway, underway, hphase]; rfl

theorem Balanced.effect (h : Balanced l e) (hs : Sound e) (heff : Effect l e m l' e' m') :
    Balanced l' e' := by
  cases heff with
  | nothing => exact h
  | allocationFailed hg => exact h
  | equipped hq => exact h.of_equipped hs hq
  | wrote hf hp => exact h
  | rearmed hr => exact h.of_rearmed hr
  | submitFailed hf => exact h
  | submitted hsub => exact h.of_submitted hs hsub
  | pollFailed hp => exact h
  | polled hp => exact h.of_polled hp

/-- The books of armings and deliveries balance, beside any kernel. -/
theorem Course.balanced (h : Course env l e m) : Balanced l e := by
  induction h with
  | created hs h =>
    have hc := create_eq_ok h
    intro s
    rw [underway, hc.phase?_eq_none s]; rfl
  | @called l e m call h ih => exact ih.effect h.sound (perform_effect h.sound call l m)
  | @passed l l' e m m' h hw ih =>
    obtain ⟨-, -, harmed, hdelivered⟩ := env.drift l e m l' m' hw
    intro s
    rw [Ledger.armings, harmed, Ledger.deliveries, hdelivered]
    exact ih s

end

/-! ## What the kernel transfers -/

/-- The transfer area of an operation holds what was staged behind the header. -/
theorem Course.area_eq {count : Nat} {l : Ledger} {e : Engine} {m : Machine SimulatedKernel}
    (h : Course (.simulated (KernelStep.IsTruthful count)) l e m) (hcount : e.endpointCount ≤ count)
    {o : Operation} (ho : o ∈ m.kernel.inFlight) : ∃ plan, l.plan? o.slot = some plan ∧
      (l.staged o.slot).length = plan.size ∧
      o.descriptor.area m.memory = some ((l.staged o.slot).drop plan.header) := by
  have ha := h.accounted hcount
  obtain ⟨file, b, hf, -⟩ := ha.exists_find?_of_mem ho
  obtain ⟨plan, hplan, -, hsize, hheader⟩ := h.housed.plan _ _ _ hf
  have hlen := h.housed.length_bytes hf
  have hstaged : l.staged o.slot = b.bytes m.memory :=
    (h.staged hcount _ (.inr (List.mem_map_of_mem ho))).trans (bytesAt_of_find? hf)
  refine ⟨plan, hplan, by rw [hstaged, hlen, hsize], ?_⟩
  obtain ⟨direction, hd⟩ := h.sound.descriptor _ _ _ hf
  rw [(ha.operation o ho).2, EndpointTable.descriptorAt_of_find? hf, hd, hstaged, ← hheader]
  -- the transfer ends where the region ends
  simp only [Descriptor.area, Buffer.transfer, Option.map_some, Option.some.injEq]
  refine List.take_of_length_le ?_
  rw [List.length_drop, ← Buffer.bytes, hlen]
  exact Nat.le_refl _

end Engine

/-! ## Runs -/

/-- **Memory in flight is the kernel's alone.** For every operation that the kernel has, every call that
reaches for its buffer is refused and changes nothing, and the transfer area holds what the region held
behind the header when the buffer was last armed, which is the one arming that was not delivered yet.
From an arming to its delivery no call changes a byte of the region. -/
theorem SingleEngine.exclusive_in_flight {steps : List Step}
    (h : SingleEngine KernelStep.IsHonest steps) {e : Engine}
    (he : (Watched.run steps).session.engine = some e) :
    (∀ o ∈ (Watched.run steps).session.machine.kernel.inFlight,
      (∀ call : EngineCall, call.Reaches e o.slot → ∃ err,
        e.perform call (Watched.run steps).session.machine =
          (.error (.fault (.error err)), e, (Watched.run steps).session.machine)) ∧
      (Watched.run steps).ledger.armings o.slot = (Watched.run steps).ledger.deliveries o.slot + 1 ∧
      ∃ plan, (Watched.run steps).ledger.plan? o.slot = some plan ∧
        ((Watched.run steps).ledger.staged o.slot).length = plan.size ∧
        o.descriptor.area (Watched.run steps).session.machine.memory =
          some (((Watched.run steps).ledger.staged o.slot).drop plan.header)) ∧
    ∀ s, (Watched.run steps).ledger.deliveries s < (Watched.run steps).ledger.armings s →
      ∃ file b, e.endpoints.find? s = some (file, b) ∧ ∀ call : EngineCall,
        b.bytes (e.perform call (Watched.run steps).session.machine).2.2.memory =
          b.bytes (Watched.run steps).session.machine.memory := by
  have hc := (h.isTruthful UInt32.size).course he
  have hcount := hc.sound.endpointCount_le_size
  refine ⟨fun o ho => ?_, fun s hl => ?_⟩
  · have hp := (hc.accounted hcount).phase?_of_mem ho
    refine ⟨fun call hr => Engine.perform_of_reaches hp hr _, ?_, hc.area_eq hcount ho⟩
    rw [hc.balanced o.slot, Engine.underway, hp]; rfl
  · have hunder := hc.balanced s
    obtain ⟨file, b, hf, hb⟩ := Engine.exists_find?_of_underway (e := e) (s := s) (by omega)
    exact ⟨file, b, hf, fun call =>
      (Engine.perform_effect hc.sound call _ _).bytes_eq hc.housed hf hb⟩

/-- Three buffers come back; the first two are filled and armed again, and of the two only the first is
taken. The completions of the last poll can still be asked for. -/
def refilledRun : List Step :=
  [.command (.createEquipped [⟨7, .write, 3, 4, 1⟩]), .command (.call .submit),
    .kernel (.complete ⟨0, 0⟩ [] 3), .kernel (.complete ⟨0, 1⟩ [] 3), .kernel (.complete ⟨0, 2⟩ [] 3),
    .command (.call .poll), .command (.call (.writeAt 0 1 [5, 6, 7])),
    .command (.call (.rearmAt 0 .write)), .command (.call (.write ⟨0, 1⟩ 0 [8, 9])),
    .command (.call (.rearmAt 1 .write)), .kernel (.limitSubmit 1), .command (.call .submit)]

/-- The operation sends what was staged, and its buffer cannot be reached by the index of its earlier
completion. -/
theorem SingleEngine.refilled_in_flight : ∃ (e : Engine) (o : Operation),
    (Watched.run refilledRun).session.engine = some e ∧
      o ∈ (Watched.run refilledRun).session.machine.kernel.inFlight ∧
      e.phases = [some [.inFlight, .armed, .completed]] ∧
      o.descriptor.area (Watched.run refilledRun).session.machine.memory = some [5, 6, 7] ∧
      (∃ err, e.perform (.writeAt 0 0 [1]) (Watched.run refilledRun).session.machine =
        (.error (.fault (.error err)), e, (Watched.run refilledRun).session.machine)) ∧
      ∃ file b, e.endpoints.find? ⟨0, 1⟩ = some (file, b) ∧ ∀ call : EngineCall,
        b.bytes (e.perform call (Watched.run refilledRun).session.machine).2.2.memory =
          b.bytes (Watched.run refilledRun).session.machine.memory := by
  have hrun : (Watched.run refilledRun).session.engine.map (fun e => (e.phases,
      (e.completed 0).map Record.slot)) =
        some ([some [.inFlight, .armed, .completed]], .ok ⟨0, 0⟩) := by decide +kernel
  obtain ⟨e, he, hrun⟩ := Option.map_eq_some_iff.1 hrun
  obtain ⟨hphases, hindex⟩ := by simpa only [Prod.mk.injEq] using hrun
  have hops : (Watched.run refilledRun).session.machine.kernel.inFlight.map Operation.slot =
      [⟨0, 0⟩] := by decide +kernel
  obtain ⟨o, hop, hslot⟩ := List.map_eq_singleton_iff.1 hops
  have ho : o ∈ (Watched.run refilledRun).session.machine.kernel.inFlight := by simp [hop]
  obtain ⟨hops, hregion⟩ := SingleEngine.exclusive_in_flight (by decide) he
  obtain ⟨hrefused, -, plan, hplan, -, harea⟩ := hops o ho
  have hstaged : ((Watched.run refilledRun).ledger.plan? ⟨0, 0⟩).map (fun plan =>
      ((Watched.run refilledRun).ledger.staged ⟨0, 0⟩).drop plan.header) = some [5, 6, 7] := by
    decide +kernel
  rw [hslot] at hplan harea hrefused
  rw [hplan, Option.map_some] at hstaged
  have hreaches : (EngineCall.writeAt 0 0 [1]).Reaches e ⟨0, 0⟩ := by
    cases hc : e.completed 0 with
    | error err => rw [hc] at hindex; cases hindex
    | ok r => rw [hc] at hindex; exact ⟨r, hc, Except.ok.inj hindex⟩
  exact ⟨e, o, he, ho, hphases, harea.trans hstaged, hrefused _ hreaches,
    hregion ⟨0, 1⟩ (by decide +kernel)⟩

end Gadget
