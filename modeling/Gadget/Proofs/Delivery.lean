import Gadget.Proofs.Slicing
import Gadget.Proofs.Staging
/-!
# Every completion is delivered once, in order, with its data

What the kernel completed is what was delivered followed by what still waits, in the kernel's order
and with the bytes that the operations are to end with (`Delivering`). A completion moves an operation
from the kernel to the end of both sides; a poll moves records from the waiting ones to the delivered
ones. In between a waiting record keeps its bytes: its buffer is in flight, so no call writes into it,
and no other operation is about it.
-/
namespace Gadget

/-! ## Bytes -/

/-- What fits replaces exactly its own place. -/
theorem splice_eq {start : Nat} {new old : List UInt8} (h : start + new.length ≤ old.length) :
    splice start new old = old.take start ++ new ++ old.drop (start + new.length) := by
  rw [splice, List.take_of_length_le (l := new) (by omega)]

namespace Completion

/-- The frame of a successful transfer is the header followed by the payload. -/
theorem frame_eq {c : Completion} (hr : 0 ≤ c.result) (ho : c.offset ≤ c.data.length)
    (hl : c.data.length ≤ Limits.word) :
    ∃ payload, c.payload = .ok payload ∧ c.frame = .ok (c.data.take c.offset ++ payload) := by
  have hstop := stop_of_nonneg hr hl
  refine ⟨_, payload_of_stop hstop, ?_⟩
  rw [frame_of_stop hstop, ← header_append_extract (by omega), Nat.min_eq_left ho]

end Completion

namespace Engine

section

variable {κ : Type} {l l' : Ledger} {e e' : Engine} {m m' : Machine κ} {s : Slot} {file : Int32}
  {b : Buffer}

/-! ## Completions -/

/-- A completion of the buffer in a slot. -/
def completionAt (slot : Slot) (result : Int64) (data : List UInt8) (e : Engine) :
    Except TransferError Completion :=
  match e.endpoints.find? slot with
  | some (file, b) => .ok ⟨slot, file, result, b.header, data⟩
  | none => .error (.brokenContract (.unknownSlot slot))

/-- The header length of the buffer in a slot. -/
def headerAt (slot : Slot) (e : Engine) : Nat :=
  match e.endpoints.find? slot with
  | some (_, b) => b.header
  | none => 0

/-- The completion that a record stands for. -/
def report (e : Engine) (m : Machine κ) (r : Record) : Except TransferError Completion :=
  e.completionAt r.slot r.result (e.bytesAt r.slot m)

/-- The completion that an operation is to have: what was staged, with what the kernel transferred in
place of the bytes behind the header. -/
def expected (e : Engine) (o : Outcome) : Except TransferError Completion :=
  e.completionAt o.slot o.result (splice (e.headerAt o.slot) o.bytes o.staged)

theorem completionAt_of_find? (hf : e.endpoints.find? s = some (file, b)) (result : Int64)
    (data : List UInt8) : e.completionAt s result data = .ok ⟨s, file, result, b.header, data⟩ := by
  simp [completionAt, hf]

theorem headerAt_of_find? (hf : e.endpoints.find? s = some (file, b)) : e.headerAt s = b.header := by
  simp [headerAt, hf]

theorem Keeps.completionAt_eq (h : Keeps e e') (hf : e.endpoints.find? s = some (file, b))
    (result : Int64) (data : List UInt8) : e'.completionAt s result data = e.completionAt s result data := by
  obtain ⟨b', hf', -, hh⟩ := h.find? s file b hf
  rw [completionAt_of_find? hf, completionAt_of_find? hf', hh]

theorem Keeps.expected_eq (h : Keeps e e') {o : Outcome}
    (hf : e.endpoints.find? o.slot = some (file, b)) : e'.expected o = e.expected o := by
  obtain ⟨b', hf', -, hh⟩ := h.find? _ file b hf
  rw [expected, expected, h.completionAt_eq hf, headerAt_of_find? hf, headerAt_of_find? hf', hh]

theorem Keeps.report_eq (h : Keeps e e') {r : Record}
    (hf : e.endpoints.find? r.slot = some (file, b)) (hb : e'.bytesAt r.slot m' = e.bytesAt r.slot m) :
    e'.report m' r = e.report m r := by
  rw [report, report, h.completionAt_eq hf, hb]

/-- What can be inspected right after a poll are the records that counted. -/
theorem Polled.inspect_eq [Kernel κ] {received : Nat} {written valid : List Record}
    {refused : List (Record × TransferError)} (h : Polled received written valid refused e m e' m')
    {i : Nat} {r : Record} (hr : valid[i]? = some r) : e'.inspect i m' = e'.report m' r := by
  obtain ⟨file, b, hf, hb⟩ :=
    EndpointTable.phase?_eq_some_iff.1 (h.phase?_of_valid (List.mem_of_getElem? hr))
  have hcompleted : e'.completed i = .ok r := by rw [completed, h.delivered, hr]
  rw [report, completionAt_of_find? hf, bytesAt_of_find? hf, inspect, hcompleted]
  simp only [EndpointTable.locate_of_find? hf, hb, reduceCtorEq, if_false]

theorem Polled.delivered_eq [Kernel κ] {received : Nat} {written valid : List Record}
    {refused : List (Record × TransferError)} (h : Polled received written valid refused e m e' m') :
    e'.delivered m' = valid.map (e'.report m') := by
  apply List.ext_getElem?
  intro i
  rw [Engine.delivered, h.ready, List.getElem?_map, List.getElem?_map]
  by_cases hi : i < valid.length
  · rw [List.getElem?_range hi, List.getElem?_eq_getElem hi]
    exact congrArg some (h.inspect_eq (List.getElem?_eq_getElem hi))
  · rw [List.getElem?_eq_none (by simpa using hi), List.getElem?_eq_none (by simpa using hi)]
    rfl

end

variable {count : Nat} {l l' : Ledger} {e e' : Engine} {m m' : Machine SimulatedKernel} {s : Slot}
  {file : Int32} {b : Buffer}

/-! ## The law of delivery -/

/-- What was completed is what was delivered and what still waits. -/
structure Delivering (count : Nat) (l : Ledger) (e : Engine) (m : Machine SimulatedKernel) : Prop where
  queue : l.completed.map e.expected = l.delivered ++ (m.kernel.waiting count).map (e.report m)
  fits : ∀ o ∈ l.completed, ∃ file b, e.endpoints.find? o.slot = some (file, b) ∧
    o.staged.length = b.region.size ∧ b.header + o.bytes.length ≤ b.region.size

namespace Delivering

theorem expected_eq (h : Delivering count l e m) (hk : Keeps e e') :
    l.completed.map e'.expected = l.completed.map e.expected := by
  refine List.map_congr_left ?_
  intro o ho
  obtain ⟨file, b, hf, -, -⟩ := h.fits o ho
  exact hk.expected_eq hf

theorem fits_of_keeps (h : Delivering count l e m) (hk : Keeps e e') (o : Outcome)
    (ho : o ∈ l.completed) : ∃ file b, e'.endpoints.find? o.slot = some (file, b) ∧
      o.staged.length = b.region.size ∧ b.header + o.bytes.length ≤ b.region.size := by
  obtain ⟨file, b, hf, hs, hb⟩ := h.fits o ho
  obtain ⟨b', hf', hr, hh⟩ := hk.find? _ _ _ hf
  exact ⟨file, b', hf', by rw [hr]; exact hs, by rw [hr, hh]; exact hb⟩

/-- If nothing is completed or collected, only the bytes of waiting completions matter. -/
theorem of_waiting_eq (h : Delivering count l e m) (hk : Keeps e e')
    (hl : l'.completed = l.completed ∧ l'.delivered = l.delivered)
    (hw : m'.kernel.waiting count = m.kernel.waiting count)
    (hr : ∀ r ∈ m.kernel.waiting count, e'.report m' r = e.report m r) : Delivering count l' e' m' where
  queue := by
    rw [hl.1, hl.2, hw, h.expected_eq hk, h.queue, List.map_congr_left hr]
  fits o ho := h.fits_of_keeps hk o (hl.1 ▸ ho)

theorem of_polled {received : Nat} {written valid : List Record}
    {refused : List (Record × TransferError)} (h : Delivering count l e m) (ha : Accounted count e m)
    (hcount : e.endpointCount ≤ count) (hp : Polled received written valid refused e m e' m')
    (hr : ∀ r ∈ m.kernel.waiting count, e'.report m' r = e.report m r) :
    Delivering count (l.noteDelivered (e'.delivered m')) e' m' where
  queue := by
    obtain ⟨hwait, -, -, -⟩ := ha.kernel_of_polled hcount hp
    have hsame := List.map_congr_left hr
    rw [hwait, List.map_append] at hsame
    simp only [Ledger.noteDelivered]
    rw [h.expected_eq hp.keeps, h.queue, hp.delivered_eq, List.append_assoc, hsame, hwait,
      List.map_append]
  fits o ho := h.fits_of_keeps hp.keeps o ho

theorem effect (h : Delivering count l e m) (hh : Housed l e m) (ha : Accounted count e m)
    (hcount : e.endpointCount ≤ count) (heff : Effect l e m l' e' m') : Delivering count l' e' m' := by
  have hk := heff.keeps
  -- the buffer of a waiting record is in flight, so the call leaves it alone
  have hr : ∀ r ∈ m.kernel.waiting count, e'.report m' r = e.report m r := by
    intro r hm
    obtain ⟨file, b, hf, hb⟩ := ha.exists_find?_of_mem_waiting hm
    exact hk.report_eq hf (hk.bytesAt_eq hf (heff.bytes_eq hh hf (by rw [hb]; decide)))
  cases heff with
  | nothing => exact h
  | allocationFailed hg =>
    exact h.of_waiting_eq hk ⟨rfl, rfl⟩ (by rw [hg.kernel]) hr
  | equipped hq =>
    exact h.of_waiting_eq hk ⟨rfl, rfl⟩ (by rw [hq.machine.kernel]) hr
  | wrote hf hp => exact h.of_waiting_eq hk ⟨rfl, rfl⟩ rfl hr
  | rearmed hq =>
    exact h.of_waiting_eq hk ⟨rfl, rfl⟩ (by rw [hq.machine]; rfl) hr
  | submitFailed hf =>
    exact h.of_waiting_eq hk ⟨rfl, rfl⟩ (ha.untouched_of_submitFailed hf).waiting_eq hr
  | submitted hsub => exact h.of_waiting_eq hk ⟨rfl, rfl⟩ (ha.kernel_of_submitted hsub).2.1 hr
  | pollFailed hp =>
    exact h.of_waiting_eq hk ⟨rfl, rfl⟩ (ha.untouched_of_pollFailed hp).waiting_eq hr
  | polled hp => exact h.of_polled ha hcount hp hr

/-- The bytes of the completed operation's buffer. -/
theorem bytesAt_completed (hs : Sound e) (ha : Accounted count e m) {o : Operation}
    (ho : o ∈ m.kernel.inFlight) (hf : e.endpoints.find? o.slot = some (file, b))
    (rest : List Operation) (bytes : List UInt8) (result : Int64) :
    e.bytesAt o.slot (m.afterCompletion (some e.context.id) o rest bytes result) =
      splice b.header bytes (e.bytesAt o.slot m) := by
  rw [bytesAt_of_find? hf, bytesAt_of_find? hf, Buffer.bytes, Buffer.bytes]
  simp only [Machine.afterCompletion, (transferInto_eq hs ha ho hf bytes).1, Machine.overwrite]
  exact Memory.bytes_overwrite_self _ _

theorem of_completed (h : Delivering count l e m) (hs : Sound e) (hh : Housed l e m)
    (ha : Accounted count e m) (hst : Staged l e m) (hcount : e.endpointCount ≤ count) {o : Operation}
    {before after : List Operation} {bytes : List UInt8} {result : Int64}
    (ho : m.kernel.inFlight = before ++ o :: after) (hb : bytes.length ≤ o.descriptor.length) :
    Delivering count (l.noteCompleted o.slot bytes result) e
      (m.afterCompletion (some e.context.id) o (before ++ after) bytes result) := by
  have hmem : o ∈ m.kernel.inFlight := by simp [ho]
  obtain ⟨file, b, hf, -⟩ := ha.exists_find?_of_mem hmem
  have hstaged : l.staged o.slot = e.bytesAt o.slot m :=
    hst o.slot (.inr (List.mem_map_of_mem hmem))
  refine ⟨?_, ?_⟩
  · -- the waiting completions are about other buffers
    have hold : ∀ r ∈ m.kernel.waiting count, e.report
        (m.afterCompletion (some e.context.id) o (before ++ after) bytes result) r = e.report m r := by
      intro r hr
      have hne : r.slot ≠ o.slot := fun he => (List.nodup_append.1 ha.nodup).2.2 o.slot
        (List.mem_map_of_mem hmem) r.slot (List.mem_map_of_mem hr) he.symm
      obtain ⟨file', b', hf', -⟩ := ha.exists_find?_of_mem_waiting hr
      exact (Keeps.refl e).report_eq hf' (bytesAt_afterCompletion hs hh ha hmem _ _ _ hne hf')
    have hnew : e.expected ⟨o.slot, result, bytes, l.staged o.slot⟩ = e.report
        (m.afterCompletion (some e.context.id) o (before ++ after) bytes result)
        ⟨o.descriptor.tag, 0, result, 0⟩ := by
      show _ = e.completionAt o.slot result (e.bytesAt o.slot _)
      rw [bytesAt_completed hs ha hmem hf, expected, headerAt_of_find? hf, hstaged]
    rw [ha.waiting_of_completed hcount hmem, List.map_append, List.map_congr_left hold]
    simp only [Ledger.noteCompleted, List.map_append, List.map_singleton, h.queue, hnew,
      List.append_assoc]
  · intro x hx
    rcases List.mem_append.1 hx with hx | hx
    · exact h.fits x hx
    · rw [List.mem_singleton.1 hx]
      have hlen := (transferInto_eq hs ha hmem hf bytes).2
      have := b.header_lt
      refine ⟨file, b, hf, ?_, by simp only; omega⟩
      show (l.staged o.slot).length = _
      rw [hstaged, bytesAt_of_find? hf, hh.length_bytes hf]

theorem progress (h : Delivering count l e m) (hs : Sound e) (hh : Housed l e m)
    (ha : Accounted count e m) (hst : Staged l e m) (hcount : e.endpointCount ≤ count)
    (hp : m.Progress (some e.context.id) count l l' m') : Delivering count l' e m' := by
  cases hp with
  | quiet hk hm =>
    refine h.of_waiting_eq (.refl e) ⟨rfl, rfl⟩ hk.waiting_eq ?_
    intro r hr
    obtain ⟨file, b, hf, -⟩ := ha.exists_find?_of_mem_waiting hr
    exact (Keeps.refl e).report_eq hf ((Keeps.refl e).bytesAt_eq hf (Memory.bytes_congr hm _))
  | injected hr =>
    exact h.of_waiting_eq (.refl e) ⟨rfl, rfl⟩ (SimulatedKernel.waiting_deliver_of_foreign hr)
      fun _ _ => rfl
  | completed ho hb => exact h.of_completed hs hh ha hst hcount ho hb

end Delivering

theorem Course.delivering (h : Course (.simulated (KernelStep.IsTruthful count)) l e m)
    (hcount : e.endpointCount ≤ count) : Delivering count l e m := by
  induction h with
  | created hs h =>
    have hc := create_eq_ok h
    have hwait : ∀ r, r ∉ (_ : Machine SimulatedKernel).kernel.waiting count := fun r hr => by
      have := (hc.accounted hs).phase?_of_mem_waiting hr
      rw [hc.phase?_eq_none] at this
      cases this
    refine ⟨?_, by simp [Ledger.empty]⟩
    rw [List.eq_nil_iff_forall_not_mem.2 hwait]; rfl
  | @called l e m call h ih =>
    have heff := perform_effect h.sound call l m
    rw [heff.keeps.endpointCount] at hcount
    exact (ih hcount).effect h.housed (h.accounted hcount) hcount heff
  | @passed l l' e m m' h hw ih =>
    obtain ⟨k, hk, rfl, rfl⟩ := hw
    exact (ih hcount).progress h.sound h.housed (h.accounted hcount) (h.staged hcount) hcount
      (Machine.kernelStep_progress hk _ l m)

/-- What was inspected is what the buffer holds. -/
theorem data_of_inspect {i : Nat} {c : Completion} (h : e.inspect i m = .ok c) :
    c.data = e.bytesAt c.slot m := by
  unfold inspect at h
  split at h
  · cases h
  · split at h
    · cases h
    · rename_i r _ file b hl
      split at h
      · cases h
      · unfold EndpointTable.locate at hl
        split at hl
        · rename_i x hf
          cases hl
          cases h
          exact (bytesAt_of_find? hf).symm
        · cases hl

/-- The completions of a poll are the next operations that the kernel completed. -/
theorem Course.inspect_eq (h : Course (.simulated (KernelStep.IsTruthful count)) l e m)
    (hcount : e.endpointCount ≤ count) {n : Nat} (hp : e.poll m = (.ok n, e', m')) {i : Nat}
    (hi : i < n) : ∃ o, l.completed[l.delivered.length + i]? = some o ∧
      e'.inspect i m' = e'.expected o := by
  have hq := ((h.called .poll).delivering
    (by rwa [(perform_effect h.sound .poll l m).keeps.endpointCount])).queue
  simp only [Ledger.noteCall, perform, hp, Ledger.noteDelivered] at hq
  have hget := congrArg (·[l.delivered.length + i]?) hq
  simp only [List.append_assoc, List.getElem?_map] at hget
  rw [List.getElem?_append_right (Nat.le_add_right _ _), Nat.add_sub_cancel_left,
    List.getElem?_append_left (by simpa using hi), List.getElem?_map, List.getElem?_range hi] at hget
  obtain ⟨o, ho, heq⟩ := Option.map_eq_some_iff.1 hget
  exact ⟨o, ho, heq.symm⟩

/-- No completion of another operation changes a buffer. -/
theorem Course.bytes_complete (h : Course (.simulated (KernelStep.IsTruthful count)) l e m)
    (hcount : e.endpointCount ≤ count) (hf : e.endpoints.find? s = some (file, b)) {slot : Slot}
    (hne : slot ≠ s) (bytes : List UInt8) (result : Int64) :
    b.bytes (m.kernelStep (some e.context.id) (.complete slot bytes result)).2.memory =
      b.bytes m.memory := by
  rcases Machine.complete_cases (some e.context.id) slot bytes result m with
    ⟨err, hc⟩ | ⟨o, before, after, rfl, ho, -, hc⟩
  · rw [Machine.kernelStep, hc]
  · have hsame := bytesAt_afterCompletion h.sound h.housed (h.accounted hcount) (by simp [ho])
      (before ++ after) bytes result hne.symm hf
    rw [bytesAt_of_find? hf, bytesAt_of_find? hf] at hsame
    rw [Machine.kernelStep, hc]
    exact hsame

end Engine

/-! ## Runs -/

/-- **Every completion is delivered exactly once, in the kernel's order**, whatever records about other
endpoints turn up and whichever calls fail: what the kernel completed is what the polls delivered,
followed by the records about the engine's endpoints that still wait. -/
theorem SingleEngine.delivered_once {steps : List Step} {e : Engine}
    (he : (Watched.run steps).session.engine = some e)
    (h : SingleEngine (KernelStep.IsTruthful e.endpointCount) steps) :
    (Watched.run steps).ledger.completed.map (fun o => Except.ok (o.slot, o.result)) =
      (Watched.run steps).ledger.delivered.map (Except.map fun c => (c.slot, c.result)) ++
      ((Watched.run steps).session.machine.kernel.ready.filter (·.isAbout e.endpointCount)).map
        fun r => Except.ok (r.slot, r.result) := by
  have hc := h.course he
  have hd := hc.delivering (Nat.le_refl _)
  have ha := hc.accounted (Nat.le_refl _)
  have hq := congrArg (List.map (Except.map fun c : Completion => (c.slot, c.result))) hd.queue
  rw [List.map_append, List.map_map, List.map_map] at hq
  calc (Watched.run steps).ledger.completed.map (fun o => Except.ok (o.slot, o.result))
      = _ := List.map_congr_left fun o ho => by
        obtain ⟨file, b, hf, -, -⟩ := hd.fits o ho
        rw [Function.comp, Engine.expected, Engine.completionAt_of_find? hf]; rfl
    _ = _ := hq
    _ = _ := by
      congr 1
      refine List.map_congr_left ?_
      intro r hr
      obtain ⟨file, b, hf, -⟩ := ha.exists_find?_of_mem_waiting hr
      rw [Function.comp, Engine.report, Engine.completionAt_of_find? hf]; rfl

/-- Of two completions behind a foreign record, a poll of two records delivers the first. -/
theorem SingleEngine.delivered_once_behind_foreign : ∃ steps e,
    (Watched.run steps).session.engine = some e ∧
      SingleEngine (KernelStep.IsTruthful e.endpointCount) steps ∧
      (Watched.run steps).ledger.delivered.length = 1 ∧
      (Watched.run steps).ledger.completed.map (fun o => Except.ok (o.slot, o.result)) =
        (Watched.run steps).ledger.delivered.map (Except.map fun c => (c.slot, c.result)) ++
        ((Watched.run steps).session.machine.kernel.ready.filter (·.isAbout e.endpointCount)).map
          fun r => Except.ok (r.slot, r.result) := by
  let steps : List Step := [.command (.createEquipped [⟨7, .read, 2, 2, 0⟩]), .command (.call .submit),
    .kernel (.inject (Slot.toTag ⟨1, 0⟩) 3), .kernel (.complete ⟨0, 1⟩ [8] 1),
    .kernel (.complete ⟨0, 0⟩ [] (-5)), .command (.call .poll)]
  have hcount : (Watched.run steps).session.engine.map Engine.endpointCount = some 1 := by
    decide +kernel
  obtain ⟨e, he, hcount⟩ := Option.map_eq_some_iff.1 hcount
  have h : SingleEngine (KernelStep.IsTruthful e.endpointCount) steps := by
    rw [hcount]
    decide
  exact ⟨steps, e, he, h, by decide +kernel, SingleEngine.delivered_once he h⟩

/-- The completion that an operation has to end in: the endpoint's file and header, the kernel's
result, and what was staged with the transferred bytes in place of those behind the header. -/
def Outcome.completion (plan : EndpointPlan) (o : Outcome) : Completion where
  slot := o.slot
  file := plan.file
  result := o.result
  offset := plan.header
  data := o.staged.take plan.header ++ o.bytes ++ o.staged.drop (plan.header + o.bytes.length)

/-- **Data arrives as it was staged and transferred.** After a poll of `n` completions, the `i`-th is
that of the `i`-th operation that was not delivered before: inspecting it yields that operation's
completion, whose data is what the buffer holds. If the transfer succeeded, the frame is the staged
header followed by the payload. Completing any operation of another slot never changes a buffer. -/
theorem SingleEngine.data_delivered {steps : List Step} (h : SingleEngine KernelStep.IsHonest steps)
    {e : Engine} (he : (Watched.run steps).session.engine = some e) :
    (∀ n e' m', e.poll (Watched.run steps).session.machine = (.ok n, e', m') → ∀ i < n,
      ∃ (o : Outcome) (plan : EndpointPlan) (b : Buffer),
        (Watched.run steps).ledger.completed[(Watched.run steps).ledger.delivered.length + i]? =
          some o ∧
        (Watched.run steps).ledger.plan? o.slot = some plan ∧
        o.staged.length = plan.size ∧ plan.header + o.bytes.length ≤ plan.size ∧
        e'.inspect i m' = .ok (o.completion plan) ∧
        e'.endpoints.find? o.slot = some (plan.file, b) ∧
        b.bytes m'.memory = (o.completion plan).data ∧
        (0 ≤ o.result → ∃ payload, (o.completion plan).payload = .ok payload ∧
          (o.completion plan).frame = .ok (o.staged.take plan.header ++ payload))) ∧
    ∀ s file b, e.endpoints.find? s = some (file, b) → ∀ slot bytes result, slot ≠ s →
      b.bytes ((Watched.run steps).session.machine.kernelStep (some e.context.id)
        (.complete slot bytes result)).2.memory =
      b.bytes (Watched.run steps).session.machine.memory := by
  have hc := (h.isTruthful UInt32.size).course he
  have hcount := hc.sound.endpointCount_le_size
  refine ⟨?_, fun s file b hf slot bytes result hne =>
    hc.bytes_complete hcount hf hne bytes result⟩
  intro n e' m' hp i hi
  obtain ⟨o, ho, hinspect⟩ := hc.inspect_eq hcount hp hi
  have hc' := hc.called .poll
  simp only [Ledger.noteCall, Engine.perform, hp] at hc'
  obtain ⟨file, b, hf, hstaged, hfit⟩ :=
    (hc'.delivering hc'.sound.endpointCount_le_size).fits o (List.mem_of_getElem? ho)
  obtain ⟨plan, hplan, rfl, hsize, hheader⟩ := hc'.housed.plan _ _ _ hf
  rw [hsize] at hstaged
  rw [hheader, hsize] at hfit
  have hok : e'.inspect i m' = .ok (o.completion plan) := by
    rw [hinspect, Engine.expected, Engine.completionAt_of_find? hf, Engine.headerAt_of_find? hf,
      hheader, splice_eq (by omega)]; rfl
  have hdata : (o.completion plan).data = b.bytes m'.memory :=
    (Engine.data_of_inspect hok).trans (Engine.bytesAt_of_find? hf)
  refine ⟨o, plan, b, ho, hplan, hstaged, hfit, hok, hf, hdata.symm, ?_⟩
  intro hr
  have hlen : (o.completion plan).data.length = plan.size := by
    rw [hdata, hc'.housed.length_bytes hf, hsize]
  have hsmall := hc'.housed.size_le _ _ _ hf
  obtain ⟨payload, hpayload, hframe⟩ := Completion.frame_eq (c := o.completion plan) hr
    (by show plan.header ≤ _; omega) (by simp only [Limits.int64, Limits.word] at *; omega)
  have hhead : (o.completion plan).data.take plan.header = o.staged.take plan.header := by
    rw [Outcome.completion, List.append_assoc,
      List.take_append_of_le_length (by rw [List.length_take]; omega), List.take_take, Nat.min_self]
  exact ⟨payload, hpayload, by rw [hframe, ← hhead]; rfl⟩

/-- A header that was written between two transfers precedes the bytes of the second, and behind them
is what the first one left. -/
theorem SingleEngine.restaged_data_delivered : ∃ steps e e' m' o plan,
    SingleEngine KernelStep.IsHonest steps ∧ (Watched.run steps).session.engine = some e ∧
      e.poll (Watched.run steps).session.machine = (.ok 1, e', m') ∧
      e'.inspect 0 m' = .ok (Outcome.completion plan o) ∧
      (Outcome.completion plan o).data = [9, 5, 2, 0] := by
  let steps : List Step := [.command (.createEquipped [⟨7, .read, 1, 4, 1⟩]), .command (.call .submit),
    .kernel (.complete ⟨0, 0⟩ [1, 2] 2), .command (.call .poll),
    .command (.call (.write ⟨0, 0⟩ 0 [9])), .command (.call (.rearm ⟨0, 0⟩ .read)),
    .command (.call .submit), .kernel (.complete ⟨0, 0⟩ [5] 1)]
  have h : SingleEngine KernelStep.IsHonest steps := by decide
  have hrun : ((Watched.run steps).session.engine.map fun e =>
      (e.poll (Watched.run steps).session.machine).1) = some (.ok 1) := by decide +kernel
  have hdata : ((Watched.run steps).session.engine.map fun e =>
      ((e.poll (Watched.run steps).session.machine).2.1.inspect 0
        (e.poll (Watched.run steps).session.machine).2.2).map Completion.data) =
      some (.ok [9, 5, 2, 0]) := by decide +kernel
  obtain ⟨e, he, hpoll⟩ := Option.map_eq_some_iff.1 hrun
  rw [he, Option.map_some, Option.some.injEq] at hdata
  cases hp : e.poll (Watched.run steps).session.machine with
  | mk outcome x =>
    obtain ⟨e', m'⟩ := x
    rw [hp] at hpoll hdata
    cases hpoll
    obtain ⟨o, plan, -, -, -, -, -, hinspect, -⟩ :=
      (SingleEngine.data_delivered h he).1 1 e' m' hp 0 Nat.one_pos
    rw [hinspect] at hdata
    exact ⟨steps, e, e', m', o, plan, h, he, hp, hinspect, Except.ok.inj hdata⟩

end Gadget
