import Gadget.Proofs.Housing
import Gadget.Proofs.Runs
/-!
# Submission is a queue of the armed operations

What the kernel accepted, followed by what still waits, is what was armed, in the order of arming
(`InOrder`). Arming appends to both sides; a submission moves the boundary, whether the kernel takes
all of a batch, part of it or nothing. Nothing else touches either side: an armed buffer refuses to
be armed, so no descriptor changes between its arming and its acceptance.
-/
namespace Gadget.Engine

variable {κ : Type} {l l' : Ledger} {e e' : Engine} {m m' : Machine κ}

/-- The descriptor that an arming makes. -/
def transferOf (e : Engine) (a : Arming) : Descriptor :=
  match e.endpoints.find? a.slot with
  | some (file, b) => b.transfer a.slot a.direction file e.doorbell.file
  | none => .zero

theorem transferOf_of_find? {a : Arming} {file : Int32} {b : Buffer}
    (h : e.endpoints.find? a.slot = some (file, b)) :
    e.transferOf a = b.transfer a.slot a.direction file e.doorbell.file := by
  simp [transferOf, h]

/-- A buffer that stays where it is yields the same descriptors. -/
theorem Keeps.transferOf_eq (h : Keeps e e') {a : Arming} (hf : (e.endpoints.find? a.slot).isSome) :
    e'.transferOf a = e.transferOf a := by
  obtain ⟨⟨file, b⟩, hf⟩ := Option.isSome_iff_exists.1 hf
  obtain ⟨b', hf', hr, hh⟩ := h.find? _ _ _ hf
  rw [transferOf_of_find? hf, transferOf_of_find? hf', h.doorbell]
  simp only [Buffer.transfer, Buffer.transferLength, hr, hh]

/-- The law of the queue. -/
structure InOrder (l : Ledger) (e : Engine) (m : Machine κ) : Prop where
  queue : m.accepted ++ e.batch = l.armed.map e.transferOf
  found : ∀ a ∈ l.armed, (e.endpoints.find? a.slot).isSome

theorem Keeps.isSome_find? (h : Keeps e e') {s : Slot} (hs : (e.endpoints.find? s).isSome) :
    (e'.endpoints.find? s).isSome := by
  obtain ⟨⟨file, b⟩, hf⟩ := Option.isSome_iff_exists.1 hs
  obtain ⟨b', hf', -, -⟩ := h.find? _ _ _ hf
  simp [hf']

/-- Without an arming, only what is accepted and what waits have to add up. -/
theorem InOrder.of_keeps (h : InOrder l e m) (hk : Keeps e e') (hl : l'.armed = l.armed)
    (hq : m'.accepted ++ e'.batch = m.accepted ++ e.batch) : InOrder l' e' m' where
  queue := by
    rw [hq, h.queue, hl]
    exact List.map_congr_left fun a ha => (hk.transferOf_eq (h.found a ha)).symm
  found a ha := by
    rw [hl] at ha
    exact hk.isSome_find? (h.found a ha)

/-- Armings append the same descriptors to both sides. -/
theorem InOrder.of_armed (h : InOrder l e m) (hk : Keeps e e') (new : List Arming)
    (hl : l'.armed = l.armed ++ new) (hacc : m'.accepted = m.accepted)
    (hq : e'.backlog.slots = e.backlog.slots ++ new.map Arming.slot)
    (hold : ∀ s ∈ e.backlog.slots, e'.endpoints.find? s = e.endpoints.find? s)
    (hnew : ∀ a ∈ new, ∃ file b, e'.endpoints.find? a.slot = some (file, b) ∧
      b.descriptor = b.transfer a.slot a.direction file e.doorbell.file) : InOrder l' e' m' where
  queue := by
    have hbatch : e'.batch = e.batch ++ new.map e'.transferOf := by
      simp only [batch, hq, List.map_append, List.map_map]
      congr 1
      · exact List.map_congr_left fun s hm => by simp [EndpointTable.descriptorAt, hold s hm]
      · refine List.map_congr_left ?_
        intro a ha
        obtain ⟨file, b, hf, hd⟩ := hnew a ha
        rw [Function.comp, EndpointTable.descriptorAt_of_find? hf, transferOf_of_find? hf, hd,
          hk.doorbell]
    rw [hbatch, hacc, ← List.append_assoc, h.queue, hl, List.map_append]
    congr 1
    exact List.map_congr_left fun a ha => (hk.transferOf_eq (h.found a ha)).symm
  found a ha := by
    rw [hl, List.mem_append] at ha
    rcases ha with ha | ha
    · exact hk.isSome_find? (h.found a ha)
    · obtain ⟨file, b, hf, -⟩ := hnew a ha
      simp [hf]

theorem Submitted.batch_eq [Kernel κ] {count : Nat} (h : Submitted count e m e' m') :
    m'.accepted ++ e'.batch = m.accepted ++ e.batch := by
  have hb : e'.batch = e.batch.drop count := by
    simp only [batch, h.backlog, ← List.map_drop]
    exact List.map_congr_left fun s _ => h.endpoints.descriptorAt_eq s
  rw [Machine.accepted, h.calls, List.flatMap_append, hb]
  simp [Call.accepted, Machine.accepted]

theorem Polled.batch_eq [Kernel κ] {count : Nat} {written valid : List Record}
    {refused : List (Record × TransferError)} (h : Polled count written valid refused e m e' m') :
    m'.accepted ++ e'.batch = m.accepted ++ e.batch := by
  have hb : e'.batch = e.batch := by
    simp only [batch, h.backlog]
    exact List.map_congr_left fun s _ => h.settles.moved.descriptorAt_eq s
  obtain ⟨signaled, k, -, -, hc, -⟩ := h.kernel
  rw [Machine.accepted, hc, List.flatMap_append, hb]
  simp [Call.accepted, Machine.accepted]

theorem PollFailed.accepted_eq [Kernel κ] {errno : Errno} (h : PollFailed errno e m m') :
    m'.accepted = m.accepted := by
  rcases h.kernel with ⟨-, hc⟩ | ⟨_, _, -, -, -, hc⟩ | ⟨_, _, -, -, hc⟩ <;>
    simp [Machine.accepted, hc, Call.accepted]

theorem InOrder.of_equipped {index : Nat} {plan : EndpointPlan} {buffers : List Buffer}
    (h : InOrder l e m) (hs : Sound e) (hq : Equipped index plan buffers e m e' m') :
    InOrder (l.noteEquip index plan) e' m' := by
  obtain ⟨-, hc, hi⟩ := hq.count_le hs
  refine h.of_armed hq.keeps (plan.armings index) rfl
    (by rw [Machine.accepted, hq.machine.calls]; rfl) ?_ ?_ ?_
  · rw [hq.engine]
    simp [EndpointPlan.armings, Function.comp_def]
  · -- a waiting slot has a buffer, so its endpoint is not the new one
    intro s hm
    obtain ⟨file, b, hf, -⟩ := hs.find?_of_mem_backlog hm
    rw [hq.find?, if_neg]
    intro he
    rw [hq.find?_vacant he] at hf; cases hf
  · intro a ha
    obtain ⟨s, hm, rfl⟩ := List.mem_map.1 ha
    obtain ⟨he, hb⟩ := (mem_slots hi hc s).1 hm
    obtain ⟨b, hget, hf⟩ := hq.exists_new he hb
    exact ⟨plan.file, b, hf, (hq.new he hget).2.2.2⟩

theorem InOrder.of_rearmed {slot : Slot} {direction : Direction} {file : Int32} {b : Buffer}
    (h : InOrder l e m) (hs : Sound e) (hr : Rearmed slot direction file b e m e' m') :
    InOrder (l.noteArm slot direction (e.bytesAt slot m)) e' m' := by
  refine h.of_armed hr.keeps [⟨slot, direction, e.bytesAt slot m⟩] rfl (by rw [hr.machine]; rfl)
    (by rw [hr.engine]; rfl) ?_ ?_
  · -- the slot was completed, so it is none of the waiting ones
    intro s hm
    rw [hr.find?_eq, if_neg]
    rintro rfl
    have := (hs.mem_backlog s).1 hm
    rw [hr.phase?_slot] at this; cases this
  · intro a ha
    rw [List.mem_singleton.1 ha]
    exact ⟨file, _, by rw [hr.find?_eq, if_pos rfl], rfl⟩

theorem InOrder.effect [Kernel κ] (h : InOrder l e m) (hs : Sound e)
    (heff : Effect l e m l' e' m') : InOrder l' e' m' := by
  have hk := heff.keeps
  cases heff with
  | nothing => exact h
  | allocationFailed hg =>
    exact h.of_keeps hk rfl (by rw [Machine.accepted, hg.calls]; rfl)
  | equipped hq => exact h.of_equipped hs hq
  | wrote hf hp => exact h.of_keeps hk rfl rfl
  | rearmed hr => exact h.of_rearmed hs hr
  | submitFailed hf =>
    exact h.of_keeps hk rfl (by simp [Machine.accepted, hf.calls, Call.accepted])
  | submitted hsub => exact h.of_keeps hk rfl hsub.batch_eq
  | pollFailed hp => exact h.of_keeps hk rfl (by rw [hp.accepted_eq]; rfl)
  | polled hp => exact h.of_keeps hk rfl hp.batch_eq

theorem Created.inOrder [Kernel κ] {endpointCount maxEvents : Nat} (hm : m.calls = [])
    (h : Created endpointCount maxEvents m e m') : InOrder .empty e m' where
  queue := by
    simp [Machine.accepted, h.calls, hm, batch, h.backlog_slots, Ledger.empty, Call.accepted]
  found := by simp [Ledger.empty]

/-- The law of the queue holds in every run. -/
theorem Course.inOrder [Kernel κ] {env : Environment κ} (h : Course env l e m) : InOrder l e m := by
  induction h with
  | created hs h => exact (create_eq_ok h).inOrder (env.blank _ hs).1
  | @called l e m call h ih => exact ih.effect h.sound (perform_effect h.sound call l m)
  | @passed l l' e m m' h hw ih =>
    obtain ⟨hd, -, harmed, -⟩ := env.drift l e m l' m' hw
    exact ih.of_keeps (.refl e) harmed (by rw [Machine.accepted, hd.calls]; rfl)

/-- **Submission is a lossless queue of exactly the armed operations.** The slots of the accepted
descriptors followed by the waiting slots are the armed slots, in order; and the `k`-th accepted
descriptor asks for the transfer of the `k`-th arming, between the endpoint's file and the buffer's
own region behind its header. This holds beside any kernel, whatever else it answers. -/
theorem Course.submission_order [Kernel κ] (h : Course (.arbitrary κ) l e m) :
    l.armed.map Arming.slot = m.accepted.map Descriptor.slot ++ e.backlog.slots ∧
    ∀ (k : Nat) (d : Descriptor), m.accepted[k]? = some d →
      ∃ (a : Arming) (plan : EndpointPlan) (b : Buffer), l.armed[k]? = some a ∧
      l.plan? a.slot = some plan ∧
      e.endpoints.find? a.slot = some (plan.file, b) ∧ b.region.size = plan.size ∧
      (∀ s file b', e.endpoints.find? s = some (file, b') → b'.region.number = b.region.number →
        s = a.slot) ∧
      d = { tag := a.slot.toTag
            key := 0
            rwFlags := 0
            opcode := if a.direction = .read then 0 else 1
            priority := 0
            file := plan.file.toUInt32
            target := some ⟨b.region.number, plan.header⟩
            length := plan.size - plan.header
            position := 0
            reserved := 0
            flags := 1
            notified := e.doorbell.file.toUInt32 } := by
  have hs := h.sound
  have hh := h.housed
  have ho := h.inOrder
  constructor
  · have harmed : (l.armed.map e.transferOf).map Descriptor.slot = l.armed.map Arming.slot := by
      rw [List.map_map]
      refine List.map_congr_left ?_
      intro a ha
      obtain ⟨⟨file, b⟩, hf⟩ := Option.isSome_iff_exists.1 (ho.found a ha)
      rw [Function.comp, transferOf_of_find? hf]
      exact Slot.ofTag_toTag a.slot
    have hbatch : e.batch.map Descriptor.slot = e.backlog.slots := by
      rw [batch, List.map_map]
      conv_rhs => rw [← List.map_id e.backlog.slots]
      refine List.map_congr_left ?_
      intro s hm
      obtain ⟨file, b, hf, -⟩ := hs.find?_of_mem_backlog hm
      exact hs.slot_descriptorAt hf
    rw [← harmed, ← ho.queue, List.map_append, hbatch]
  · intro k d hd
    have hk : (l.armed.map e.transferOf)[k]? = some d := by
      rw [← ho.queue]
      exact List.getElem?_append_left (List.getElem?_eq_some_iff.1 hd).1 ▸ hd
    obtain ⟨a, ha, rfl⟩ := Option.map_eq_some_iff.1 (List.getElem?_map .. ▸ hk)
    obtain ⟨⟨file, b⟩, hf⟩ := Option.isSome_iff_exists.1 (ho.found a (List.mem_of_getElem? ha))
    obtain ⟨plan, hplan, rfl, hsize, hheader⟩ := hh.plan _ _ _ hf
    refine ⟨a, plan, b, ha, hplan, hf, hsize, ?_, ?_⟩
    · intro s file b' hf' he
      exact hh.apart _ _ _ _ _ _ hf' hf he
    · rw [transferOf_of_find? hf, Buffer.transfer_eq, hsize, hheader]

/-- An endpoint that reads and one that writes, of two buffers each; the kernel takes three. -/
def bothWaysRun : List Step :=
  [.command (.create 2 4), .command (.call (.equip 0 ⟨7, .read, 2, 4, 1⟩)),
    .command (.call (.equip 1 ⟨8, .write, 2, 5, 2⟩)), .kernel (.limitSubmit 3), .command (.call .submit)]

/-- The last of the three that are accepted writes all of a buffer but its header. -/
theorem Course.mixed_submission_order : ∃ (l : Ledger) (e : Engine) (m : Machine SimulatedKernel)
    (b : Buffer), Course (.arbitrary SimulatedKernel) l e m ∧
      m.accepted.map (fun d => (d.slot, d.opcode, d.flags)) =
        [(⟨0, 0⟩, 0, 1), (⟨0, 1⟩, 0, 1), (⟨1, 0⟩, 1, 1)] ∧
      e.backlog.slots = [⟨1, 1⟩] ∧
      l.armed.map Arming.slot = m.accepted.map Descriptor.slot ++ e.backlog.slots ∧
      e.endpoints.find? ⟨1, 0⟩ = some (8, b) ∧
      m.accepted[2]? = some
        { tag := 0x100000000
          key := 0
          rwFlags := 0
          opcode := 1
          priority := 0
          file := 8
          target := some ⟨b.region.number, 2⟩
          length := 3
          position := 0
          reserved := 0
          flags := 1
          notified := 100 } := by
  let w := Watched.run bothWaysRun
  have hqueue : w.session.engine.map (fun e => (e.backlog.slots, e.doorbell.file)) =
      some ([⟨1, 1⟩], 100) := by decide +kernel
  obtain ⟨e, he, hqueue⟩ := Option.map_eq_some_iff.1 hqueue
  obtain ⟨hslots, hdoorbell⟩ := by simpa only [Prod.mk.injEq] using hqueue
  have hc := (SingleEngine.course (by decide : SingleEngine KernelStep.IsHonest bothWaysRun) he).arbitrary
  obtain ⟨horder, haccepted⟩ := Course.submission_order hc
  have hthird : w.session.machine.accepted[2]?.isSome = true ∧
      w.ledger.armed[2]?.map (fun a => (a.slot, a.direction)) = some (⟨1, 0⟩, .write) ∧
      w.ledger.plan? ⟨1, 0⟩ = some ⟨8, .write, 2, 5, 2⟩ := by decide +kernel
  obtain ⟨hsome, hwrite, hplanned⟩ := hthird
  obtain ⟨d, hd⟩ := Option.isSome_iff_exists.1 hsome
  obtain ⟨a, plan, b, ha, hplan, hf, -, -, rfl⟩ := haccepted 2 d hd
  rw [ha, Option.map_some, Option.some.injEq, Prod.mk.injEq] at hwrite
  obtain ⟨hslot, hdirection⟩ := hwrite
  rw [hslot] at hplan hf
  rw [hplanned, Option.some.injEq] at hplan
  subst hplan
  rw [hslot, hdirection, hdoorbell] at hd
  exact ⟨_, e, _, b, hc, by decide +kernel, hslots, horder, hf, hd⟩

end Gadget.Engine
