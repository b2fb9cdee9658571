import Gadget.Proofs.Atomicity
/-!
# Which endpoints are let in

A request to equip an endpoint is judged by five rules in a row, and the first that applies decides. Four
of them are looked at before anything is asked for (`Engine.objection?`). The engine looks at two counters
of its own, the buffers that it owns and the room in its backlog; that the smaller of the two is always
what the buffers of all endpoints leave over (`Sound.available_eq`) is what makes the fourth rule one about
buffers. The fifth is about memory: the regions are asked for one by one, and all of them are to be had or
none is kept (`acquire_isOk_iff`).
-/
namespace Gadget

/-! ## Geometry -/

/-- A geometry that transfers can work with: there is a buffer, the header leaves room in it, and one
transfer is not longer than the kernel can report. -/
def EndpointPlan.Usable (p : EndpointPlan) : Prop :=
  1 ≤ p.count ∧ p.header < p.size ∧ p.size - p.header ≤ Limits.int32

instance (p : EndpointPlan) : Decidable p.Usable := by
  unfold EndpointPlan.Usable; infer_instance

namespace EndpointPlan

variable {p : EndpointPlan}

theorem check_of_usable (h : p.Usable) : p.check = .ok () := check_eq_ok_iff.2 h

/-- The check of a geometry refuses nothing but arguments. -/
theorem check_cases (p : EndpointPlan) :
    p.check = .ok () ∨ ∃ fault, p.check = .error (.badArgument fault) := by
  unfold check
  split
  · exact .inr ⟨_, rfl⟩
  split
  · exact .inr ⟨_, rfl⟩
  split
  · exact .inr ⟨_, rfl⟩
  split
  · exact .inr ⟨_, rfl⟩
  · exact .inl rfl

/-- An unusable geometry is a bad argument, whatever is wrong with it. -/
theorem check_of_not_usable (h : ¬ p.Usable) : ∃ fault, p.check = .error (.badArgument fault) :=
  p.check_cases.resolve_left fun hok => h (check_eq_ok_iff.1 hok)

end EndpointPlan

/-! ## Memory -/

variable {κ : Type} [Kernel κ]

/-- Memory can be had for the buffers of an endpoint: in one piece for what is noted of them, and a region
for each of them when its turn comes. No piece is larger than the machine can address, and of each the
allocator decides. -/
def Machine.CanSupply (plan : EndpointPlan) (m : Machine κ) : Prop :=
  (plan.count * Buffer.width ≤ Limits.int64 ∧
    Kernel.grants ⟨.buffers, plan.count * Buffer.width, m.memory.requests⟩ m.kernel) ∧
  ∀ j < plan.count, plan.size ≤ Limits.int64 ∧
    Kernel.grants ⟨.region, plan.size, m.memory.requests + j⟩ m.kernel

instance (plan : EndpointPlan) (m : Machine κ) : Decidable (m.CanSupply plan) := by
  unfold Machine.CanSupply; infer_instance

namespace Engine

variable {plan : EndpointPlan} {e e' : Engine} {m m' : Machine κ} {index : Nat}

/-- The regions are to be had if each request for one is granted when its turn comes. -/
theorem acquire_isOk_iff (hh : plan.header < plan.size) (count index : Nat) (m : Machine κ) :
    (∃ buffers m', acquire plan index count m = (.ok buffers, m')) ↔
      ∀ j < count, plan.size ≤ Limits.int64 ∧
        Kernel.grants ⟨.region, plan.size, m.memory.requests + j⟩ m.kernel := by
  have hpos : 0 < plan.size := by omega
  induction count generalizing index m with
  | zero => exact ⟨fun _ j hj => absurd hj (Nat.not_lt_zero j), fun _ => ⟨[], m, rfl⟩⟩
  | succ count ih =>
    by_cases ha : m.grants .region plan.size
    · have hrest : (∃ buffers m', acquire plan index (count + 1) m = (.ok buffers, m')) ↔
          ∃ buffers m', acquire plan (index + 1) count (m.granted plan.size) = (.ok buffers, m') := by
        rw [acquire_of_grants hh ha]
        cases acquire plan (index + 1) count (m.granted plan.size) with
        | mk outcome m' => cases outcome <;> simp
      -- the requests for the others are counted one further
      have hturn : ∀ j, (m.granted plan.size).memory.requests + j = m.memory.requests + (j + 1) :=
        fun j => Nat.add_right_comm _ 1 j
      simp only [hrest, ih (index + 1) (m.granted plan.size), hturn]
      constructor
      · intro h j hj
        cases j with
        | zero => exact (Machine.grants_iff hpos).1 ha
        | succ j => exact h j (by omega)
      · exact fun h j hj => h (j + 1) (by omega)
    · constructor
      · rintro ⟨buffers, m', hrun⟩
        obtain ⟨m₁, hno, -⟩ := acquire_of_not_grants ha count index
        rw [hno] at hrun
        cases hrun
      · intro h
        exact absurd ((Machine.grants_iff hpos).2 (h 0 (Nat.succ_pos count))) ha

/-! ## The rules -/

/-- What speaks against equipping an endpoint before memory is looked at: the first of four rules that
applies. -/
def objection? (index : Nat) (plan : EndpointPlan) (e : Engine) : Option TransferError :=
  if e.endpointCount ≤ index then some (.badArgument (.endpointIndex index e.endpointCount))
  else if e.isEquipped index then some (.brokenContract (.alreadyEquipped index))
  else if ¬ plan.Usable then
    match plan.check with
    | .error err => some err
    | .ok () => none
  else if e.maxEvents < e.endpoints.buffers.length + plan.count then
    some (.full plan.count (e.maxEvents - e.endpoints.buffers.length) e.maxEvents)
  else none

/-- Which of the rules applies first. -/
theorem objection?_cases (index : Nat) (plan : EndpointPlan) (e : Engine) :
    (e.endpointCount ≤ index ∧
      e.objection? index plan = some (.badArgument (.endpointIndex index e.endpointCount))) ∨
    ((¬ e.endpointCount ≤ index ∧ e.isEquipped index) ∧
      e.objection? index plan = some (.brokenContract (.alreadyEquipped index))) ∨
    ((¬ e.endpointCount ≤ index ∧ ¬ e.isEquipped index ∧ ¬ plan.Usable) ∧
      ∃ fault, plan.check = .error (.badArgument fault) ∧
        e.objection? index plan = some (.badArgument fault)) ∨
    ((¬ e.endpointCount ≤ index ∧ ¬ e.isEquipped index ∧ plan.Usable ∧
        e.maxEvents < e.endpoints.buffers.length + plan.count) ∧
      e.objection? index plan =
        some (.full plan.count (e.maxEvents - e.endpoints.buffers.length) e.maxEvents)) ∨
    ((¬ e.endpointCount ≤ index ∧ ¬ e.isEquipped index ∧ plan.Usable ∧
        ¬ e.maxEvents < e.endpoints.buffers.length + plan.count) ∧
      e.objection? index plan = none) := by
  unfold objection?
  by_cases hi : e.endpointCount ≤ index
  · exact .inl ⟨hi, by rw [if_pos hi]⟩
  by_cases hq : e.isEquipped index
  · exact .inr (.inl ⟨⟨hi, hq⟩, by rw [if_neg hi, if_pos hq]⟩)
  by_cases hu : plan.Usable
  · rw [if_neg hi, if_neg hq, if_neg (not_not_intro hu)]
    by_cases hfull : e.maxEvents < e.endpoints.buffers.length + plan.count
    · exact .inr (.inr (.inr (.inl ⟨⟨hi, hq, hu, hfull⟩, if_pos hfull⟩)))
    · exact .inr (.inr (.inr (.inr ⟨⟨hi, hq, hu, hfull⟩, if_neg hfull⟩)))
  · obtain ⟨fault, hfault⟩ := EndpointPlan.check_of_not_usable hu
    refine .inr (.inr (.inl ⟨⟨hi, hq, hu⟩, fault, hfault, ?_⟩))
    rw [if_neg hi, if_neg hq, if_pos hu, hfault]

/-- Only a usable geometry passes. -/
theorem usable_of_objection? (h : e.objection? index plan = none) : plan.Usable := by
  rcases objection?_cases index plan e with
    ⟨-, ho⟩ | ⟨-, ho⟩ | ⟨-, _, -, ho⟩ | ⟨-, ho⟩ | ⟨⟨-, -, hu, -⟩, -⟩
  case inr.inr.inr.inr => exact hu
  all_goals
    rw [ho] at h
    cases h

/-- None of the four rules is about memory. -/
theorem objection?_ne_outOfMemory (index : Nat) (plan : EndpointPlan) (e : Engine) :
    e.objection? index plan ≠ some .outOfMemory := by
  rcases objection?_cases index plan e with
    ⟨-, ho⟩ | ⟨-, ho⟩ | ⟨-, _, -, ho⟩ | ⟨-, ho⟩ | ⟨-, ho⟩ <;> simp [ho]

/-- What an engine can still take on is what its buffers leave over. -/
theorem Sound.available_eq (hs : Sound e) :
    e.available = e.maxEvents - e.endpoints.buffers.length := by
  have howned := hs.owned_eq
  have hcapacity := hs.capacity_eq
  have hwaiting := hs.length_backlog_le
  simp only [available, Backlog.room]
  omega

/-- The endpoint of an index is vacant if there is one and it has no buffers. -/
theorem vacant_of_not_equipped (hi : ¬ e.endpointCount ≤ index) (hn : ¬ e.isEquipped index) :
    e.endpoints.entries[index]? = some none := by
  have hlt : index < e.endpoints.entries.length := by
    simp only [endpointCount, EndpointTable.count] at hi
    omega
  cases hentry : e.endpoints.entries[index]? with
  | none =>
    rw [List.getElem?_eq_none_iff] at hentry
    omega
  | some entry =>
    cases entry with
    | none => rfl
    | some p => simp [isEquipped, EndpointTable.endpoint?, hentry] at hn

/-- The check before memory is asked for is that of the four rules. -/
theorem Sound.checkEquip_eq (hs : Sound e) (index : Nat) (plan : EndpointPlan) :
    e.checkEquip index plan =
      match e.objection? index plan with
      | some err => .error err
      | none => .ok (.ofNat index) := by
  have havailable := hs.available_eq
  have hcount := hs.endpointCount_le
  unfold checkEquip
  rcases objection?_cases index plan e with
    ⟨hi, ho⟩ | ⟨⟨hi, hq⟩, ho⟩ | ⟨⟨hi, hq, -⟩, fault, hfault, ho⟩ | ⟨⟨hi, hq, hu, hfull⟩, ho⟩ |
      ⟨⟨hi, hq, hu, hfits⟩, ho⟩
  · have hnone : e.endpoints.entries[index]? = none := List.getElem?_eq_none_iff.2 hi
    simp only [hnone, ho]
  · obtain ⟨p, hp⟩ := Option.isSome_iff_exists.1 hq
    have hentry : e.endpoints.entries[index]? = some (some p) := by
      simpa [EndpointTable.endpoint?, Option.join_eq_some_iff] using hp
    simp only [hentry, ho]
  · simp only [vacant_of_not_equipped hi hq, hfault, ho]
  · have hpos : 1 ≤ plan.count := hu.1
    simp only [vacant_of_not_equipped hi hq, EndpointPlan.check_of_usable hu, havailable, ho]
    rw [if_pos (by omega)]
  · simp only [vacant_of_not_equipped hi hq, EndpointPlan.check_of_usable hu, havailable, ho]
    rw [if_neg (by omega), slotHalf_of_le (by omega)]

/-! ## What the call does -/

/-- What the four rules refuse is refused before anything is touched. -/
theorem Sound.equip_of_objection (hs : Sound e) {err : TransferError}
    (h : e.objection? index plan = some err) :
    e.equip index plan m = (.error (.error err), e, m) := by
  have hc := hs.checkEquip_eq index plan
  rw [h] at hc
  simp only [equip, hc]

/-- Where memory is refused, the engine stays as it is. -/
theorem Sound.equip_of_not_canSupply (hs : Sound e) (h : e.objection? index plan = none)
    (hm : ¬ m.CanSupply plan) :
    ∃ m', e.equip index plan m = (.error (.error .outOfMemory), e, m') := by
  have hu := usable_of_objection? h
  have hc := hs.checkEquip_eq index plan
  rw [h] at hc
  have hbytes : 0 < plan.count * Buffer.width := Nat.mul_pos hu.1 (by decide)
  rcases m.reserve_cases .buffers plan.count Buffer.width with hres | hres
  swap
  · refine ⟨m, ?_⟩
    simp only [equip, hc, hres]
  rcases acquire_spec hu.2.1 plan.count 0 m with ⟨buffers, m₁, hrun, -⟩ | ⟨k, m₁, hrun, -⟩
  · -- had all regions been granted, there would have been memory
    have hall := (acquire_isOk_iff hu.2.1 plan.count 0 m).1 ⟨buffers, m₁, hrun⟩
    exact absurd ⟨(Machine.reserve_eq_ok_iff hbytes).1 hres, hall⟩ hm
  · refine ⟨m₁, ?_⟩
    simp only [equip, hc, hres, hrun]

/-- Where nothing speaks against it and there is memory, the endpoint is equipped. -/
theorem Sound.equip_of_canSupply (hs : Sound e) (h : e.objection? index plan = none)
    (hm : m.CanSupply plan) :
    ∃ buffers e' m', e.equip index plan m = (.ok (), e', m') ∧
      Equipped index plan buffers e m e' m' := by
  obtain ⟨hnotes, hregions⟩ := hm
  have hu := usable_of_objection? h
  have hc := hs.checkEquip_eq index plan
  rw [h] at hc
  have hbytes : 0 < plan.count * Buffer.width := Nat.mul_pos hu.1 (by decide)
  obtain ⟨buffers, m₁, hrun⟩ := (acquire_isOk_iff hu.2.1 plan.count 0 m).2 hregions
  exact equip_of_acquired hs hc ((Machine.reserve_eq_ok_iff hbytes).2 hnotes) hrun

/-- The buffer in a slot as the plan of its endpoint wants it: armed for its first transfer, which takes in
all that is behind the header. -/
structure AsPlanned (plan : EndpointPlan) (slot : Slot) (notified : Int32) (b : Buffer) : Prop where
  phase : b.phase = .armed
  size : b.region.size = plan.size
  header : b.header = plan.header
  descriptor : b.descriptor =
    { tag := slot.toTag
      key := 0
      rwFlags := 0
      opcode := if plan.direction = .read then 0 else 1
      priority := 0
      file := plan.file.toUInt32
      target := some ⟨b.region.number, plan.header⟩
      length := plan.size - plan.header
      position := 0
      reserved := 0
      flags := 1
      notified := notified.toUInt32 }

theorem AsPlanned.of_transfer {slot : Slot} {notified : Int32} {b : Buffer} (hphase : b.phase = .armed)
    (hsize : b.region.size = plan.size) (hheader : b.header = plan.header)
    (hdescriptor : b.descriptor = b.transfer slot plan.direction plan.file notified) :
    AsPlanned plan slot notified b :=
  ⟨hphase, hsize, hheader, by rw [hdescriptor, Buffer.transfer_eq, hsize, hheader]⟩

/-- An engine with a new endpoint: its buffers are armed, lie in new regions of zeros and wait behind
all others, and of everything else nothing has changed. -/
structure LetIn (index : Nat) (plan : EndpointPlan) (e : Engine) (m : Machine κ) (e' : Engine)
    (m' : Machine κ) : Prop where
  backlog : e'.backlog.slots = e.backlog.slots ++
    (List.range plan.count).map fun j => ⟨.ofNat index, .ofNat j⟩
  /-- What is in each of the new slots. -/
  buffer : ∀ j < plan.count, ∃ b,
    e'.endpoints.find? ⟨.ofNat index, .ofNat j⟩ = some (plan.file, b) ∧
      AsPlanned plan ⟨.ofNat index, .ofNat j⟩ e.doorbell.file b ∧
      b.bytes m'.memory = List.replicate plan.size 0 ∧
      m.memory.isLive b.region.number = false ∧ m'.memory.isLive b.region.number = true
  equipped : e'.isEquipped index = true ∧ e'.direction? index = some plan.direction
  owned : e'.owned = e.owned + plan.count
  total : e'.endpoints.buffers.length = e.endpoints.buffers.length + plan.count
  entries : ∀ other ≠ index, e'.endpoints.entries[other]? = e.endpoints.entries[other]?
  rest : e'.endpointCount = e.endpointCount ∧ e'.records = e.records ∧ e'.ready = e.ready ∧
    e'.context = e.context ∧ e'.doorbell = e.doorbell
  /-- Memory that was allocated stays so, with its bytes. -/
  memory : ∀ region, m.memory.isLive region = true →
    m'.memory.isLive region = true ∧ m'.memory.bytes region = m.memory.bytes region

omit [Kernel κ] in
theorem Equipped.letIn {buffers : List Buffer} (hs : Sound e)
    (h : Equipped index plan buffers e m e' m') : LetIn index plan e m e' m' where
  backlog := by rw [h.engine]; rfl
  buffer j hj := by
    obtain ⟨-, hcount, hindex⟩ := h.count_le hs
    have hi : (UInt32.ofNat index).toNat = index := toNat_ofNat_of_le hindex
    have hn : (UInt32.ofNat j).toNat = j := toNat_ofNat_of_le (by omega)
    obtain ⟨b, hget, hf⟩ := h.exists_new (s := ⟨.ofNat index, .ofNat j⟩) hi (by rw [hn]; exact hj)
    obtain ⟨hphase, hregion, hheader, hdescriptor⟩ :=
      h.new (s := ⟨.ofNat index, .ofNat j⟩) hi hget
    rw [hn] at hregion
    obtain ⟨hlength, hzeros⟩ := Memory.new_region h.machine.cells hj
    refine ⟨b, hf, .of_transfer hphase (by rw [hregion]) hheader hdescriptor, ?_, ?_, ?_⟩
    · rw [Buffer.bytes, hregion]
      exact hzeros
    · -- its number is behind those of all regions so far
      rw [hregion, Memory.isLive, List.getElem?_eq_none (Nat.le_add_right _ _)]
      rfl
    · rw [hregion, Memory.isLive_eq, hlength]
      rfl
  equipped := by
    have hentry : e'.endpoints.endpoint? index = some ⟨plan.file, plan.direction, buffers⟩ := by
      rw [h.engine, EndpointTable.endpoint?, EndpointTable.install,
        List.getElem?_set_self (show index < e.endpoints.entries.length from h.index_lt)]
      rfl
    constructor
    · rw [isEquipped, hentry]
      rfl
    · rw [direction?, hentry]
      rfl
  owned := by rw [h.engine]
  total := by rw [h.engine, EndpointTable.length_buffers_install h.vacant, h.length]
  entries other hne := by
    rw [h.engine, EndpointTable.install, List.getElem?_set_ne hne.symm]
  rest := ⟨h.keeps.endpointCount, by rw [h.engine], by rw [h.engine], h.keeps.context, h.keeps.doorbell⟩
  memory region hlive := by
    rw [Memory.isLive_eq] at hlive
    obtain ⟨size, hsize⟩ := Option.isSome_iff_exists.1 hlive
    constructor
    · rw [Memory.isLive_eq, Memory.length?_append h.machine.cells hsize]
      rfl
    · exact Memory.bytes_append h.machine.cells hsize

/-- Nothing is asked of the kernel. -/
theorem Sound.equip_kernel_eq (hs : Sound e) (index : Nat) (plan : EndpointPlan) (m : Machine κ) :
    (e.equip index plan m).2.2.kernel = m.kernel ∧ (e.equip index plan m).2.2.calls = m.calls := by
  rcases equip_cases hs index plan m with ⟨err, k, m', he, hg⟩ | ⟨buffers, e', m', he, h⟩
  · rw [he]
    exact ⟨hg.kernel, hg.calls⟩
  · rw [he]
    exact ⟨h.machine.kernel, h.machine.calls⟩

/-! ## The outcome -/

/-- One of the four rules applies, or memory decides. -/
theorem Sound.equip_by_rule (hs : Sound e) (index : Nat) (plan : EndpointPlan) (m : Machine κ) :
    (∃ err, e.objection? index plan = some err ∧
      e.equip index plan m = (.error (.error err), e, m)) ∨
    (e.objection? index plan = none ∧ ¬ m.CanSupply plan ∧ ∃ m',
      e.equip index plan m = (.error (.error .outOfMemory), e, m')) ∨
    (e.objection? index plan = none ∧ m.CanSupply plan ∧ ∃ buffers e' m',
      e.equip index plan m = (.ok (), e', m') ∧ Equipped index plan buffers e m e' m') := by
  cases ho : e.objection? index plan with
  | some err => exact .inl ⟨err, rfl, hs.equip_of_objection ho⟩
  | none =>
    by_cases hm : m.CanSupply plan
    · exact .inr (.inr ⟨rfl, hm, hs.equip_of_canSupply ho hm⟩)
    · exact .inr (.inl ⟨rfl, hm, hs.equip_of_not_canSupply ho hm⟩)

/-- The answer of the call, by the first rule that applies. -/
theorem Sound.equip_answer (hs : Sound e) (index : Nat) (plan : EndpointPlan) (m : Machine κ) :
    (e.equip index plan m).1 =
      match e.objection? index plan with
      | some err => .error (.error err)
      | none => if m.CanSupply plan then .ok () else .error (.error .outOfMemory) := by
  rcases hs.equip_by_rule index plan m with ⟨err, ho, he⟩ | ⟨ho, hm, m', he⟩ | ⟨ho, hm, _, e', m', he, -⟩
  · simp only [ho, he]
  · simp only [ho, he, if_neg hm]
  · simp only [ho, he, if_pos hm]

/-- **What equipping an endpoint comes to** on every engine that calls can lead to, beside any kernel.
The call answers by the first of five rules that applies: the index is that of an endpoint; the endpoint
has no buffers yet; the geometry is usable; all endpoints together have no more buffers than the engine
holds operations; memory can be had. What the first four refuse is refused without a change of anything,
in particular without a request for memory. Without memory nothing changes either, and as soon as there
is memory the same call succeeds. Otherwise the endpoint has its buffers and nothing else has changed. The
kernel is not asked in any case. -/
theorem Reachable.equip_outcome (h : Reachable e m) (index : Nat) (plan : EndpointPlan) :
    let total := e.endpoints.buffers.length
    ((e.equip index plan m).1 =
      if e.endpointCount ≤ index then
        .error (.error (.badArgument (.endpointIndex index e.endpointCount)))
      else if e.isEquipped index then .error (.error (.brokenContract (.alreadyEquipped index)))
      else if ¬ plan.Usable then plan.check.mapError .error
      else if e.maxEvents < total + plan.count then
        .error (.error (.full plan.count (e.maxEvents - total) e.maxEvents))
      else if m.CanSupply plan then .ok ()
      else .error (.error .outOfMemory)) ∧
    (¬ plan.Usable → ∃ fault, plan.check = .error (.badArgument fault)) ∧
    ((e.equip index plan m).2.2.kernel = m.kernel ∧ (e.equip index plan m).2.2.calls = m.calls) ∧
    (∀ f, (e.equip index plan m).1 = .error f → f ≠ .error .outOfMemory →
      (e.equip index plan m).2 = (e, m)) ∧
    ((e.equip index plan m).1 = .error (.error .outOfMemory) →
      (e.equip index plan m).2.1 = e ∧ Undisturbed e m e (e.equip index plan m).2.2 ∧
      ∀ m₁ : Machine κ, m₁.CanSupply plan → (e.equip index plan m₁).1 = .ok ()) ∧
    ((e.equip index plan m).1 = .ok () →
      LetIn index plan e m (e.equip index plan m).2.1 (e.equip index plan m).2.2) := by
  have hs := h.sound
  have hanswer := hs.equip_answer index plan m
  refine ⟨?_, EndpointPlan.check_of_not_usable, hs.equip_kernel_eq index plan m, ?_, ?_, ?_⟩
  · rw [hanswer]
    rcases objection?_cases index plan e with
      ⟨hi, ho⟩ | ⟨⟨hi, hq⟩, ho⟩ | ⟨⟨hi, hq, hu⟩, fault, hfault, ho⟩ | ⟨⟨hi, hq, hu, hfull⟩, ho⟩ |
        ⟨⟨hi, hq, hu, hfits⟩, ho⟩
    · simp only [ho, if_pos hi]
    · simp only [ho, if_neg hi, if_pos hq]
    · simp only [ho, if_neg hi, if_neg hq, if_pos hu, hfault]
      rfl
    · simp only [ho, if_neg hi, if_neg hq, if_neg (not_not_intro hu), if_pos hfull]
    · simp only [ho, if_neg hi, if_neg hq, if_neg (not_not_intro hu), if_neg hfits]
  · intro f hf hne
    rcases hs.equip_by_rule index plan m with ⟨err, -, he⟩ | ⟨-, -, m', he⟩ | ⟨-, -, _, e', m', he, -⟩
    · rw [he]
    · rw [he] at hf
      cases hf
      exact absurd rfl hne
    · rw [he] at hf
      cases hf
  · intro hout
    rcases hs.equip_by_rule index plan m with ⟨err, ho, he⟩ | ⟨ho, -, m', he⟩ | ⟨-, -, _, e', m', he, -⟩
    · rw [he] at hout
      cases hout
      exact absurd ho (objection?_ne_outOfMemory index plan e)
    · rw [he]
      refine ⟨rfl, (equip_error hs he).2, ?_⟩
      intro m₁ hm₁
      simp only [hs.equip_answer index plan m₁, ho, if_pos hm₁]
    · rw [he] at hout
      cases hout
  · intro hok
    rcases hs.equip_by_rule index plan m with ⟨err, -, he⟩ | ⟨-, -, m', he⟩ | ⟨-, -, _, e', m', he, hq⟩
    · rw [he] at hok
      cases hok
    · rw [he] at hok
      cases hok
    · rw [he]
      exact hq.letIn hs

/-- One endpoint has four buffers, of which one waits, two are in flight and one is completed; the engine
holds seven operations. The third region that is asked for from now on is refused. -/
def crowdedRun : List Step :=
  [.command (.create 2 7), .command (.call (.equip 0 ⟨7, .read, 4, 2, 1⟩)), .kernel (.limitSubmit 3),
    .command (.call .submit), .kernel (.complete ⟨0, 0⟩ [9] 1), .command (.call .poll),
    .kernel (.refuse .region 6)]

/-- Beside buffers in every phase, four more are one too many, for three there is not enough memory, and two
are let in. On a fresh machine three would be let in too. -/
theorem Reachable.equip_outcome_crowded : ∃ (e : Engine) (m : Machine SimulatedKernel), Reachable e m ∧
    e.phases = [some [.completed, .inFlight, .inFlight, .armed], none] ∧
    e.equip 1 ⟨8, .write, 4, 5, 0⟩ m = (.error (.error (.full 4 3 7)), e, m) ∧
    (e.equip 1 ⟨8, .write, 3, 5, 0⟩ m).1 = .error (.error .outOfMemory) ∧
    (e.equip 1 ⟨8, .write, 3, 5, 0⟩ m).2.1 = e ∧
    (e.equip 1 ⟨8, .write, 3, 5, 0⟩ (.boot SimulatedKernel.fresh)).1 = .ok () ∧
    LetIn 1 ⟨8, .write, 2, 5, 0⟩ e m (e.equip 1 ⟨8, .write, 2, 5, 0⟩ m).2.1
      (e.equip 1 ⟨8, .write, 2, 5, 0⟩ m).2.2 := by
  let w := Watched.run crowdedRun
  have hrun : w.session.engine.map (fun e => (e.phases,
      (e.equip 1 ⟨8, .write, 4, 5, 0⟩ w.session.machine).1,
      (e.equip 1 ⟨8, .write, 3, 5, 0⟩ w.session.machine).1,
      (e.equip 1 ⟨8, .write, 2, 5, 0⟩ w.session.machine).1)) =
      some ([some [.completed, .inFlight, .inFlight, .armed], none],
        .error (.error (.full 4 3 7)), .error (.error .outOfMemory), .ok ()) := by decide +kernel
  obtain ⟨e, he, hrun⟩ := Option.map_eq_some_iff.1 hrun
  obtain ⟨hphases, hfull, hout, hok⟩ := by simpa only [Prod.mk.injEq] using hrun
  have hr := (SingleEngine.course (by decide : SingleEngine (fun _ => True) crowdedRun) he).reachable
  obtain ⟨-, -, -, hrefused, -⟩ := Reachable.equip_outcome hr 1 ⟨8, .write, 4, 5, 0⟩
  obtain ⟨-, -, -, -, hexhausted, -⟩ := Reachable.equip_outcome hr 1 ⟨8, .write, 3, 5, 0⟩
  obtain ⟨hsame, -, hretry⟩ := hexhausted hout
  obtain ⟨-, -, -, -, -, hletIn⟩ := Reachable.equip_outcome hr 1 ⟨8, .write, 2, 5, 0⟩
  exact ⟨e, _, hr, hphases, Prod.ext hfull (hrefused _ hfull (by decide)), hout, hsame,
    hretry _ (by decide), hletIn hok⟩

end Engine
end Gadget
