import Gadget.Proofs.Census
import Gadget.Proofs.Truthful
/-!
# Every buffer is in one place

An armed buffer waits in the backlog, one in flight is with the kernel, as an operation or as a
completion that was not collected, and no other buffer is in either. The engine's half of this is
`Engine.Sound`; `Engine.Accounted` is the kernel's half: what the kernel holds is exactly what the
engine believes to be in flight, each once, and every operation still carries its buffer's
descriptor.

Records may be made up beside this, as long as they are about endpoints that the engine does not
have: such a record meets no buffer, so a poll throws it away and nothing else changes.
-/
namespace Gadget

/-- Whether a record is about one of the first `count` endpoints. -/
def Record.isAbout (count : Nat) (r : Record) : Bool := r.slot.endpoint.toNat < count

namespace SimulatedKernel

/-- The records about the first `count` endpoints that were not collected. -/
def waiting (count : Nat) (k : SimulatedKernel) : List Record := k.ready.filter (·.isAbout count)

/-- The slots of what the kernel holds: operations, and records that were not collected. -/
def held (count : Nat) (k : SimulatedKernel) : List Slot :=
  k.inFlight.map Operation.slot ++ (k.waiting count).map Record.slot

variable {k k' : SimulatedKernel} {count : Nat}

theorem Untouched.waiting_eq (h : Untouched k k') : k'.waiting count = k.waiting count := by
  rw [waiting, waiting, h.ready]

theorem Untouched.held_eq (h : Untouched k k') : k'.held count = k.held count := by
  rw [held, held, h.inFlight, h.waiting_eq]

theorem waiting_deliver_of_foreign {r : Record} (hr : count ≤ r.slot.endpoint.toNat) :
    (k.deliver r).waiting count = k.waiting count := by
  have hn : r.isAbout count = false := by simp only [Record.isAbout, decide_eq_false_iff_not]; omega
  simp [waiting, deliver, hn]

theorem waiting_deliver_of_isAbout {r : Record} (hr : r.isAbout count) :
    (k.deliver r).waiting count = k.waiting count ++ [r] := by
  simp [waiting, deliver, hr]

end SimulatedKernel

namespace EndpointTable

/-- Among records of which some are about distinct buffers in flight and the others are not about
any, exactly the former settle something. -/
theorem settle_eq_filter (p : Record → Bool) (rs : List Record) (t : EndpointTable)
    (hn : ((rs.filter p).map Record.slot).Nodup)
    (hp : ∀ r ∈ rs, p r → t.phase? r.slot = some .inFlight)
    (hnp : ∀ r ∈ rs, ¬ p r → t.phase? r.slot ≠ some .inFlight) : (settle rs t).1 = rs.filter p := by
  induction rs generalizing t with
  | nil => rfl
  | cons r rs ih =>
    by_cases hr : p r
    · obtain ⟨file, b, hf, hb⟩ := phase?_eq_some_iff.1 (hp r (by simp) hr)
      rw [List.filter_cons_of_pos hr, List.map_cons, List.nodup_cons] at hn
      obtain ⟨hnot, hn⟩ := hn
      simp only [settle, complete_of_inFlight hf hb, List.filter_cons_of_pos hr]
      congr 1
      refine ih _ hn ?_ ?_
      · intro x hx hpx
        have hne : x.slot ≠ r.slot := fun he =>
          hnot (he ▸ List.mem_map_of_mem (List.mem_filter.2 ⟨hx, hpx⟩))
        rw [phase?, find?_replace_of_ne _ hne]
        exact hp x (by simp [hx]) hpx
      · intro x hx hpx
        rw [phase?, find?_replace hf]
        split
        · simp
        · exact hnp x (by simp [hx]) hpx
    · obtain ⟨err, he⟩ := complete_of_not_inFlight (hnp r (by simp) hr)
      simp only [settle, he, List.filter_cons_of_neg hr]
      rw [List.filter_cons_of_neg hr] at hn
      exact ih _ hn (fun x hx => hp x (by simp [hx])) fun x hx => hnp x (by simp [hx])

end EndpointTable

namespace Engine

variable {count : Nat} {l l' : Ledger} {e e' : Engine} {m m' : Machine SimulatedKernel} {s : Slot}

/-- What the kernel holds is what is in flight. -/
structure Accounted (count : Nat) (e : Engine) (m : Machine SimulatedKernel) : Prop where
  trueCounts : m.kernel.submitReports = [] ∧ m.kernel.eventReports = []
  operation : ∀ o ∈ m.kernel.inFlight,
    o.context = e.context.id ∧ o.descriptor = e.endpoints.descriptorAt o.slot
  nodup : (m.kernel.held count).Nodup
  mem_held : ∀ s, s ∈ m.kernel.held count ↔ e.endpoints.phase? s = some .inFlight

namespace Accounted

theorem phase?_of_mem (h : Accounted count e m) {o : Operation} (ho : o ∈ m.kernel.inFlight) :
    e.endpoints.phase? o.slot = some .inFlight :=
  (h.mem_held o.slot).1 (List.mem_append_left _ (List.mem_map_of_mem ho))

theorem phase?_of_mem_waiting (h : Accounted count e m) {r : Record}
    (hr : r ∈ m.kernel.waiting count) : e.endpoints.phase? r.slot = some .inFlight :=
  (h.mem_held r.slot).1 (List.mem_append_right _ (List.mem_map_of_mem hr))

/-- The buffer of an operation is in flight. -/
theorem exists_find?_of_mem (h : Accounted count e m) {o : Operation} (ho : o ∈ m.kernel.inFlight) :
    ∃ file b, e.endpoints.find? o.slot = some (file, b) ∧ b.phase = .inFlight :=
  EndpointTable.phase?_eq_some_iff.1 (h.phase?_of_mem ho)

/-- The buffer of a waiting record is in flight. -/
theorem exists_find?_of_mem_waiting (h : Accounted count e m) {r : Record}
    (hr : r ∈ m.kernel.waiting count) :
    ∃ file b, e.endpoints.find? r.slot = some (file, b) ∧ b.phase = .inFlight :=
  EndpointTable.phase?_eq_some_iff.1 (h.phase?_of_mem_waiting hr)

/-- If neither the kernel's holdings nor the buffers in flight change, the account stays right. -/
theorem of_untouched (h : Accounted count e m) (hu : m.kernel.Untouched m'.kernel)
    (hc : e'.context = e.context)
    (hp : ∀ s, e'.endpoints.phase? s = some .inFlight ↔ e.endpoints.phase? s = some .inFlight)
    (hd : ∀ s, e.endpoints.phase? s = some .inFlight →
      e'.endpoints.descriptorAt s = e.endpoints.descriptorAt s) : Accounted count e' m' where
  trueCounts := by rw [hu.submitReports, hu.eventReports]; exact h.trueCounts
  operation o ho := by
    rw [hu.inFlight] at ho
    rw [hc, hd _ (h.phase?_of_mem ho)]
    exact h.operation o ho
  nodup := by rw [hu.held_eq]; exact h.nodup
  mem_held s := by rw [hu.held_eq, h.mem_held, hp]

theorem of_equipped {index : Nat} {plan : EndpointPlan} {buffers : List Buffer}
    (h : Accounted count e m) (hq : Equipped index plan buffers e m e' m') :
    Accounted count e' m' := by
  have hold : ∀ s, e.endpoints.phase? s = some .inFlight → s.endpoint.toNat ≠ index := by
    intro s hs he
    rw [EndpointTable.phase?, hq.find?_vacant he] at hs
    cases hs
  refine h.of_untouched (by rw [hq.machine.kernel]; exact .refl _) hq.keeps.context ?_ ?_
  · intro s
    rw [hq.phase?_eq]
    split
    · rename_i hnew
      exact ⟨fun hp => (by cases hp), fun hp => absurd hnew.1 (hold s hp)⟩
    · rfl
  · intro s hs
    rw [EndpointTable.descriptorAt, hq.find?, if_neg (hold s hs)]; rfl

theorem of_rearmed {slot : Slot} {direction : Direction} {file : Int32} {b : Buffer}
    (h : Accounted count e m) (hr : Rearmed slot direction file b e m e' m') :
    Accounted count e' m' := by
  have hold : ∀ s, e.endpoints.phase? s = some .inFlight → s ≠ slot := by
    rintro s hs rfl
    rw [hr.phase?_slot] at hs
    cases hs
  refine h.of_untouched (by rw [hr.machine]; exact .refl _) hr.keeps.context ?_ ?_
  · intro s
    rw [hr.phase?_eq]
    split
    · rename_i hnew
      exact ⟨fun hp => (by cases hp), fun hp => absurd hnew (hold s hp)⟩
    · rfl
  · intro s hs
    rw [EndpointTable.descriptorAt, hr.find?_eq, if_neg (hold s hs)]; rfl

/-- The slots that a submission hands over. -/
theorem slots_of_batch (hs : Sound e) (taken : Nat) :
    ((e.batch.take taken).map (Operation.mk e.context.id)).map Operation.slot =
      e.backlog.slots.take taken := by
  rw [batch, ← List.map_take, List.map_map, List.map_map]
  conv_rhs => rw [← List.map_id (e.backlog.slots.take taken)]
  refine List.map_congr_left ?_
  intro s hm
  obtain ⟨file, b, hf, -⟩ := hs.find?_of_mem_backlog (List.mem_of_mem_take hm)
  exact hs.slot_descriptorAt hf

/-- What the kernel holds after a submission. -/
theorem kernel_of_submitted {taken : Nat} (h : Accounted count e m) (hsub : Submitted taken e m e' m') :
    m'.kernel.inFlight = m.kernel.inFlight ++ (e.batch.take taken).map (Operation.mk e.context.id) ∧
      m'.kernel.waiting count = m.kernel.waiting count ∧ m'.kernel.submitReports = [] ∧
      m'.kernel.eventReports = [] := by
  obtain ⟨hops, hready, hsr, her⟩ := SimulatedKernel.submit_ok h.trueCounts.1 hsub.kernel
  exact ⟨hops, by rw [SimulatedKernel.waiting, hready]; rfl, hsr, her.trans h.trueCounts.2⟩

theorem untouched_of_submitFailed {errno : Errno} (h : Accounted count e m)
    (hf : SubmitFailed errno e m m') : m.kernel.Untouched m'.kernel :=
  SimulatedKernel.submit_error h.trueCounts.1 hf.kernel

theorem untouched_of_pollFailed {errno : Errno} (h : Accounted count e m)
    (hp : PollFailed errno e m m') : m.kernel.Untouched m'.kernel := by
  have hread := SimulatedKernel.read_untouched e.doorbell.file m.kernel
  rcases hp.kernel with ⟨hk, -⟩ | ⟨_, _, hk, -, -, -⟩ | ⟨_, k, hk, hget, -⟩
  · rwa [hk] at hread
  · rwa [hk] at hread
  · rw [hk] at hread
    exact hread.trans
      (SimulatedKernel.getEvents_error (hread.eventReports.trans h.trueCounts.2) hget)

theorem of_submitted {taken : Nat} (h : Accounted count e m) (hs : Sound e)
    (hsub : Submitted taken e m e' m') : Accounted count e' m' := by
  obtain ⟨hops, hwait, hsr, her⟩ := h.kernel_of_submitted hsub
  -- the kernel holds what it held and the accepted prefix
  have hheld : (m'.kernel.held count).Perm (m.kernel.held count ++ e.backlog.slots.take taken) := by
    rw [SimulatedKernel.held, SimulatedKernel.held, hwait, hops, List.map_append, slots_of_batch hs,
      List.append_assoc, List.append_assoc]
    exact List.Perm.append_left _ List.perm_append_comm
  have harmed : ∀ s ∈ e.backlog.slots.take taken, e.endpoints.phase? s = some .armed := fun s hm =>
    (hs.mem_backlog s).1 (List.mem_of_mem_take hm)
  refine ⟨⟨hsr, her⟩, ?_, ?_, ?_⟩
  · intro o ho
    rw [hsub.handles.1, hsub.endpoints.descriptorAt_eq]
    rw [hops, List.mem_append] at ho
    rcases ho with ho | ho
    · exact h.operation o ho
    · obtain ⟨d, hd, rfl⟩ := List.mem_map.1 ho
      rw [batch, ← List.map_take] at hd
      obtain ⟨s, hm, rfl⟩ := List.mem_map.1 hd
      obtain ⟨file, b, hf, -⟩ := hs.find?_of_mem_backlog (List.mem_of_mem_take hm)
      refine ⟨rfl, ?_⟩
      rw [Operation.slot, hs.slot_descriptorAt hf]
  · rw [hheld.nodup_iff, List.nodup_append]
    refine ⟨h.nodup, hs.backlog_nodup.sublist (List.take_sublist _ _), ?_⟩
    intro x hx y hy hxy
    have := (h.mem_held x).1 hx
    rw [hxy, harmed y hy] at this
    cases this
  · intro s
    rw [hheld.mem_iff, List.mem_append, h.mem_held, hsub.phase?_eq hs]
    split
    · rename_i hm; simp [hm]
    · rename_i hm; simp [hm]

/-- What a poll finds out is what was waiting: the records that count are those of the batch that are
about the engine's endpoints. -/
theorem kernel_of_polled {received : Nat} {written valid : List Record}
    {refused : List (Record × TransferError)} (h : Accounted count e m)
    (hcount : e.endpointCount ≤ count) (hp : Polled received written valid refused e m e' m') :
    m.kernel.waiting count = valid ++ m'.kernel.waiting count ∧
      m'.kernel.inFlight = m.kernel.inFlight ∧ m'.kernel.submitReports = [] ∧
      m'.kernel.eventReports = [] := by
  obtain ⟨signaled, k, hread, hget, -, -⟩ := hp.kernel
  have hu := SimulatedKernel.read_untouched e.doorbell.file m.kernel
  rw [hread] at hu
  obtain ⟨rfl, rfl, hops, hready, hsr, her⟩ :=
    SimulatedKernel.getEvents_ok (hu.eventReports.trans h.trueCounts.2) hget
  rw [hu.ready] at hready
  refine ⟨?_, hops.trans hu.inFlight, hsr.trans (hu.submitReports.trans h.trueCounts.1), her⟩
  -- the kernel filled the array from the front, and no more of it than there is
  have hseen : (e.array (k.ready.take e.maxEvents)).take (k.ready.take e.maxEvents).length =
      m.kernel.ready.take e.maxEvents := by
    rw [array, List.take_take, Nat.min_self, List.take_left, hu.ready]
  have hsplit : m.kernel.waiting count =
      (m.kernel.ready.take e.maxEvents).filter (·.isAbout count) ++ m'.kernel.waiting count := by
    rw [SimulatedKernel.waiting, SimulatedKernel.waiting, hready, ← List.filter_append,
      List.take_append_drop]
  have hsettled := hp.settled
  rw [hseen] at hsettled
  have hvalid := EndpointTable.settle_eq_filter (·.isAbout count)
    (m.kernel.ready.take e.maxEvents) e.endpoints ?_ (fun r hr hab => ?_) (fun r hr hab hin => ?_)
  · rw [hsettled] at hvalid
    exact hsplit.trans (congrArg (· ++ _) hvalid.symm)
  · have hn := (List.nodup_append.1 h.nodup).2.1
    rw [hsplit, List.map_append] at hn
    exact (List.nodup_append.1 hn).1
  · exact h.phase?_of_mem_waiting (List.mem_filter.2 ⟨List.mem_of_mem_take hr, hab⟩)
  · -- a slot with a buffer belongs to an endpoint of the engine
    obtain ⟨file, b, hf, -⟩ := EndpointTable.phase?_eq_some_iff.1 hin
    have := EndpointTable.endpoint_lt_of_find? hf
    simp only [Record.isAbout, decide_eq_true_eq] at hab
    simp only [endpointCount] at hcount
    omega

theorem of_polled {received : Nat} {written valid : List Record}
    {refused : List (Record × TransferError)} (h : Accounted count e m)
    (hcount : e.endpointCount ≤ count) (hp : Polled received written valid refused e m e' m') :
    Accounted count e' m' := by
  obtain ⟨hwait, hops, hsr, her⟩ := h.kernel_of_polled hcount hp
  have hheld : (m.kernel.held count).Perm (valid.map Record.slot ++ m'.kernel.held count) := by
    rw [SimulatedKernel.held, SimulatedKernel.held, hwait, hops, List.map_append, ← List.append_assoc,
      ← List.append_assoc]
    exact List.Perm.append_right _ List.perm_append_comm
  have hn := h.nodup
  rw [hheld.nodup_iff, List.nodup_append] at hn
  refine ⟨⟨hsr, her⟩, ?_, hn.2.1, ?_⟩
  · intro o ho
    rw [hops] at ho
    rw [hp.handles.1, hp.settles.moved.descriptorAt_eq]
    exact h.operation o ho
  · intro s
    have hmem := h.mem_held s
    rw [hheld.mem_iff, List.mem_append] at hmem
    rw [hp.phase?_eq]
    split
    · rename_i hv
      exact ⟨fun hm => absurd rfl (hn.2.2 s hv s hm), fun hc => by cases hc⟩
    · rename_i hv
      rw [← hmem]
      simp [hv]

theorem effect (h : Accounted count e m) (hs : Sound e) (hcount : e.endpointCount ≤ count)
    (heff : Effect l e m l' e' m') : Accounted count e' m' := by
  cases heff with
  | nothing => exact h
  | allocationFailed hg =>
    exact h.of_untouched (by rw [hg.kernel]; exact .refl _) rfl (fun _ => .rfl) fun _ _ => rfl
  | equipped hq => exact h.of_equipped hq
  | wrote hf hp => exact h.of_untouched (.refl _) rfl (fun _ => .rfl) fun _ _ => rfl
  | rearmed hr => exact h.of_rearmed hr
  | submitFailed hf =>
    exact h.of_untouched (h.untouched_of_submitFailed hf) rfl (fun _ => .rfl) fun _ _ => rfl
  | submitted hsub => exact h.of_submitted hs hsub
  | pollFailed hp =>
    exact h.of_untouched (h.untouched_of_pollFailed hp) rfl (fun _ => .rfl) fun _ _ => rfl
  | polled hp => exact h.of_polled hcount hp

/-! ## The kernel by itself -/

/-- The record that the completion of an operation leaves is about the operation's slot. -/
theorem waiting_of_completed (h : Accounted count e m) (hcount : e.endpointCount ≤ count)
    {o : Operation} {rest : List Operation} {bytes : List UInt8} {result : Int64}
    {owner : Option UInt64} (ho : o ∈ m.kernel.inFlight) :
    (m.afterCompletion owner o rest bytes result).kernel.waiting count =
      m.kernel.waiting count ++ [⟨o.descriptor.tag, 0, result, 0⟩] := by
  refine SimulatedKernel.waiting_deliver_of_isAbout (k := { m.kernel with inFlight := rest }) ?_
  obtain ⟨file, b, hf, -⟩ := h.exists_find?_of_mem ho
  have hlt := EndpointTable.endpoint_lt_of_find? hf
  simp only [Record.isAbout, decide_eq_true_eq]
  exact Nat.lt_of_lt_of_le hlt hcount

theorem of_completed (h : Accounted count e m) (hcount : e.endpointCount ≤ count)
    {o : Operation} {before after : List Operation} {bytes : List UInt8} {result : Int64}
    {owner : Option UInt64} (ho : m.kernel.inFlight = before ++ o :: after) :
    Accounted count e (m.afterCompletion owner o (before ++ after) bytes result) := by
  have hmem : o ∈ m.kernel.inFlight := by simp [ho]
  -- the slot moves from the operations to the records
  have hheld : ((m.afterCompletion owner o (before ++ after) bytes result).kernel.held count).Perm
      (m.kernel.held count) := by
    rw [SimulatedKernel.held, h.waiting_of_completed hcount hmem, SimulatedKernel.held, ho]
    simp only [Machine.afterCompletion, SimulatedKernel.deliver, List.map_append, List.map_cons,
      List.map_nil, List.append_assoc, List.cons_append]
    refine List.Perm.append_left _ ?_
    rw [← List.append_assoc]
    exact List.perm_append_comm.trans (by rfl)
  refine ⟨h.trueCounts, fun x hx => h.operation x ?_, hheld.nodup_iff.2 h.nodup, ?_⟩
  · rw [ho]
    exact SimulatedKernel.mem_of_mem_remaining hx
  · intro s
    rw [hheld.mem_iff, h.mem_held]

theorem progress {owner : Option UInt64} (h : Accounted count e m)
    (hcount : e.endpointCount ≤ count) (hp : m.Progress owner count l l' m') :
    Accounted count e m' := by
  cases hp with
  | quiet hk hm => exact h.of_untouched hk rfl (fun _ => .rfl) fun _ _ => rfl
  | injected hr =>
    have hheld : ∀ r : Record, count ≤ r.slot.endpoint.toNat →
        (m.kernel.deliver r).held count = m.kernel.held count := fun r hr => by
      rw [SimulatedKernel.held, SimulatedKernel.waiting_deliver_of_foreign hr]; rfl
    exact ⟨h.trueCounts, h.operation, by rw [hheld _ hr]; exact h.nodup,
      fun s => by rw [hheld _ hr]; exact h.mem_held s⟩
  | completed ho hb => exact h.of_completed hcount ho

end Accounted

/-! ## Whole runs -/

/-- Before there is an engine, the kernel holds nothing that could be one's. -/
theorem held_of_prepared {m : Machine SimulatedKernel}
    (h : Prepared (KernelStep.IsTruthful count) m) :
    m.kernel.inFlight = [] ∧ m.kernel.waiting count = [] ∧ m.kernel.submitReports = [] ∧
      m.kernel.eventReports = [] := by
  induction h with
  | boot => exact ⟨rfl, rfl, rfl, rfl⟩
  | @step m k h hk ih =>
    obtain ⟨hops, hwait, hsr, her⟩ := ih
    have hp := Machine.kernelStep_progress hk none .empty m
    generalize Ledger.noteKernel none k m .empty = l', (m.kernelStep none k).2 = m' at hp ⊢
    cases hp with
    | quiet hu hm =>
      refine ⟨hu.inFlight.trans hops, ?_, hu.submitReports.trans hsr, hu.eventReports.trans her⟩
      rw [hu.waiting_eq]; exact hwait
    | injected hr =>
      exact ⟨hops, (SimulatedKernel.waiting_deliver_of_foreign hr).trans hwait, hsr, her⟩
    | completed ho hb => rw [hops] at ho; simp at ho

theorem Created.accounted {endpointCount maxEvents : Nat}
    (hm : Prepared (KernelStep.IsTruthful count) m) (h : Created endpointCount maxEvents m e m') :
    Accounted count e m' := by
  obtain ⟨k, hsetup, heventfd⟩ := h.kernel
  have h₁ := SimulatedKernel.setup_untouched (.ofNat maxEvents) m.kernel
  have h₂ := SimulatedKernel.eventfd_untouched k
  rw [hsetup] at h₁
  rw [heventfd] at h₂
  have hu := h₁.trans h₂
  obtain ⟨hops, hwait, hsr, her⟩ := held_of_prepared hm
  have hheld : m'.kernel.held count = [] := by
    rw [hu.held_eq, SimulatedKernel.held, hops, hwait]; rfl
  refine ⟨⟨hu.submitReports.trans hsr, hu.eventReports.trans her⟩,
    ?_, by rw [hheld]; exact List.nodup_nil, ?_⟩
  · intro o ho
    rw [hu.inFlight, hops] at ho
    cases ho
  · intro s
    rw [hheld, h.phase?_eq_none]
    simp

/-- Beside a truthful kernel the account is right throughout. -/
theorem Course.accounted (h : Course (.simulated (KernelStep.IsTruthful count)) l e m)
    (hcount : e.endpointCount ≤ count) : Accounted count e m := by
  induction h with
  | created hs h => exact (create_eq_ok h).accounted hs
  | @called l e m call h ih =>
    have heff := perform_effect h.sound call l m
    rw [heff.keeps.endpointCount] at hcount
    exact (ih hcount).effect h.sound hcount heff
  | @passed l l' e m m' h hw ih =>
    obtain ⟨k, hk, rfl, rfl⟩ := hw
    exact (ih hcount).progress hcount (Machine.kernelStep_progress hk _ l m)

/-- Where a slot is to be found: how often it waits in the backlog, and how often the kernel holds
it, by the phase of its buffer. -/
def InPlace (e : Engine) (k : SimulatedKernel) (s : Slot) : Prop :=
  let queued := e.backlog.slots.count s
  let held := (k.inFlight.map Operation.slot ++ k.ready.map Record.slot).count s
  match e.phase? s with
  | none => queued = 0 ∧ held = 0
  | some .idle => False
  | some .armed => queued = 1 ∧ held = 0
  | some .inFlight => queued = 0 ∧ held = 1
  | some .completed => queued = 0 ∧ held = 0

/-- A sound engine has no more endpoints than half a slot can name. -/
theorem Sound.endpointCount_le_size (h : Sound e) : e.endpointCount ≤ UInt32.size := by
  have := h.endpointCount_le
  simp only [Limits.uint32, UInt32.size] at *
  omega

theorem inPlace_of_accounted (hs : Sound e) (h : Accounted count e m)
    (hall : m.kernel.waiting count = m.kernel.ready) (s : Slot) : e.InPlace m.kernel s := by
  have hn := h.nodup
  have hmem := h.mem_held s
  rw [SimulatedKernel.held, hall] at hn hmem
  have hq := hs.mem_backlog s
  have hidle := hs.not_idle s
  unfold InPlace
  rw [phase?_eq]
  -- where the phase asks for the slot it is there, once since there are no duplicates
  have hqueued : e.endpoints.phase? s ≠ some .armed → e.backlog.slots.count s = 0 := fun hp =>
    List.count_eq_zero.2 (mt hq.1 hp)
  have hheld : e.endpoints.phase? s ≠ some .inFlight →
      (m.kernel.inFlight.map Operation.slot ++ m.kernel.ready.map Record.slot).count s = 0 := fun hp =>
    List.count_eq_zero.2 (mt hmem.1 hp)
  cases hp : e.endpoints.phase? s with
  | none => exact ⟨hqueued (by simp [hp]), hheld (by simp [hp])⟩
  | some p =>
    cases p with
    | idle => exact hidle hp
    | armed => exact ⟨List.count_eq_one_of_mem hs.backlog_nodup (hq.2 hp), hheld (by simp [hp])⟩
    | inFlight => exact ⟨hqueued (by simp [hp]), List.count_eq_one_of_mem hn (hmem.2 hp)⟩
    | completed => exact ⟨hqueued (by simp [hp]), hheld (by simp [hp])⟩

end Engine

/-- Every record is about one of the endpoints that a slot can name. -/
theorem SimulatedKernel.waiting_all (k : SimulatedKernel) : k.waiting UInt32.size = k.ready := by
  refine List.filter_eq_self.2 ?_
  intro r _
  simp only [Record.isAbout, decide_eq_true_eq]
  exact r.slot.endpoint.toNat_lt_size

theorem SingleEngine.isTruthful {steps : List Step} (h : SingleEngine KernelStep.IsHonest steps)
    (count : Nat) : SingleEngine (KernelStep.IsTruthful count) steps :=
  ⟨h.creations, h.kept, fun k hk => (h.kernel k hk).isTruthful count⟩

/-- **Every buffer is in exactly one place**, in every state of every run of one engine beside an
honest kernel: armed buffers wait in the backlog, buffers in flight are with the kernel, each once,
nothing else is in either, and no buffer is idle. -/
theorem SingleEngine.every_buffer_in_place {steps : List Step}
    (h : SingleEngine KernelStep.IsHonest steps) {e : Engine}
    (he : (Session.run steps (.boot .fresh)).engine = some e) :
    (∀ s, e.InPlace (Session.run steps (.boot .fresh)).machine.kernel s) ∧
      ∀ b ∈ e.endpoints.buffers, b.phase ≠ .idle := by
  rw [← Watched.session_run] at he ⊢
  have hc := (h.isTruthful UInt32.size).course he
  have hs := hc.sound
  exact ⟨Engine.inPlace_of_accounted hs (hc.accounted hs.endpointCount_le_size)
    (SimulatedKernel.waiting_all _), fun b hb => hs.phase_ne_idle hb⟩

/-- Of four buffers one is back, two are with the kernel and one waits. -/
theorem SingleEngine.mixed_buffers_in_place :
    ∃ e, (Session.run mixedRun (.boot .fresh)).engine = some e ∧
      e.phases = [some [.completed, .inFlight, .inFlight, .armed]] ∧
      (∀ s, e.InPlace (Session.run mixedRun (.boot .fresh)).machine.kernel s) ∧
      ∀ b ∈ e.endpoints.buffers, b.phase ≠ .idle := by
  have hphases : (Session.run mixedRun (.boot .fresh)).engine.map Engine.phases =
      some [some [.completed, .inFlight, .inFlight, .armed]] := by decide +kernel
  obtain ⟨e, he, hphases⟩ := Option.map_eq_some_iff.1 hphases
  exact ⟨e, he, hphases, SingleEngine.every_buffer_in_place (by decide) he⟩

end Gadget
