import Gadget.Proofs.Runs
/-!
# What a truthful kernel does

The simulated kernel, as long as no false count is on its way. Then a submission that reports `count`
took that many descriptors, a collection that reports `count` wrote that many records, and no other
call touches the operations or the records (`SimulatedKernel.Untouched`). A step of the kernel by
itself is one of three (`Machine.Progress`): nothing of the kind, a record made up, or the completion
of an operation.
-/
namespace Gadget

namespace SimulatedKernel

variable {k k' : SimulatedKernel}

/-- The operations and the records are as before, and as many false counts are on their way. -/
structure Untouched (k k' : SimulatedKernel) : Prop where
  inFlight : k'.inFlight = k.inFlight
  ready : k'.ready = k.ready
  submitReports : k'.submitReports = k.submitReports
  eventReports : k'.eventReports = k.eventReports

theorem Untouched.refl (k : SimulatedKernel) : Untouched k k := ⟨rfl, rfl, rfl, rfl⟩

theorem Untouched.trans {k₁ k₂ k₃ : SimulatedKernel} (h : Untouched k₁ k₂) (h' : Untouched k₂ k₃) :
    Untouched k₁ k₃ where
  inFlight := h'.inFlight.trans h.inFlight
  ready := h'.ready.trans h.ready
  submitReports := h'.submitReports.trans h.submitReports
  eventReports := h'.eventReports.trans h.eventReports

/-! ## Calls -/

/-- An answer is an injected failure, which is used up, or what was to be answered. -/
theorem answer_cases {α : Type} (kind : CallKind)
    (otherwise : SimulatedKernel → Except Errno α × SimulatedKernel) (k : SimulatedKernel) :
    (∃ errno failures, answer kind otherwise k = (.error errno, { k with failures })) ∨
    answer kind otherwise k = otherwise k := by
  unfold answer
  split
  · exact .inl ⟨_, _, rfl⟩
  · exact .inr rfl

theorem answer_untouched {α : Type} (kind : CallKind)
    {otherwise : SimulatedKernel → Except Errno α × SimulatedKernel} {k : SimulatedKernel}
    (h : Untouched k (otherwise k).2) : Untouched k (answer kind otherwise k).2 := by
  rcases answer_cases kind otherwise k with ⟨errno, failures, he⟩ | he
  · rw [he]; exact ⟨rfl, rfl, rfl, rfl⟩
  · rw [he]; exact h

theorem setup_untouched (maxEvents : UInt32) (k : SimulatedKernel) :
    Untouched k (Kernel.setup maxEvents k).2 :=
  answer_untouched .setup ⟨rfl, rfl, rfl, rfl⟩

theorem eventfd_untouched (k : SimulatedKernel) : Untouched k (Kernel.eventfd k).2 :=
  answer_untouched .eventfd ⟨rfl, rfl, rfl, rfl⟩

theorem read_untouched (file : Int32) (k : SimulatedKernel) :
    Untouched k (Kernel.read file k).2 := by
  show Untouched k (read file k).2
  unfold read
  split
  · exact .refl k
  · refine answer_untouched .read ?_
    split
    · exact ⟨rfl, rfl, rfl, rfl⟩
    · split <;> exact ⟨rfl, rfl, rfl, rfl⟩

/-- A submission fails, or takes exactly the prefix that it reports. -/
theorem submit_spec (hr : k.submitReports = []) {id : UInt64} {batch : List Descriptor}
    {outcome : Except Errno Nat} (h : Kernel.submit id batch k = (outcome, k')) :
    (∃ errno, outcome = .error errno ∧ Untouched k k') ∨
    (∃ count, outcome = .ok count ∧
      k'.inFlight = k.inFlight ++ (batch.take count).map (⟨id, ·⟩) ∧ k'.ready = k.ready ∧
      k'.submitReports = [] ∧ k'.eventReports = k.eventReports) := by
  change submit id batch k = (outcome, k') at h
  simp only [submit] at h
  split at h
  · cases h; exact .inl ⟨_, rfl, ⟨rfl, rfl, rfl, rfl⟩⟩
  · rcases answer_cases .submit _ { k with submissions := k.submissions + 1 } with
      ⟨errno, failures, ha⟩ | ha
    · rw [ha] at h
      cases h
      exact .inl ⟨errno, rfl, ⟨rfl, rfl, rfl, rfl⟩⟩
    · rw [ha] at h
      simp only [hr, List.head?_nil, Option.getD_none, List.tail_nil, Prod.mk.injEq] at h
      obtain ⟨rfl, rfl⟩ := h
      refine .inr ⟨_, rfl, ?_, rfl, rfl, rfl⟩
      rw [List.length_take, ← List.take_eq_take_min]

/-- A collection fails, or delivers what it reports from the front of the records. -/
theorem getEvents_spec (hr : k.eventReports = []) {id : UInt64} {minimum room : Nat}
    {outcome : Except Errno (Nat × List Record)}
    (h : Kernel.getEvents id minimum room k = (outcome, k')) :
    (∃ errno, outcome = .error errno ∧ Untouched k k') ∨
    (∃ count written, outcome = .ok (count, written) ∧ written = k.ready.take room ∧
      count = written.length ∧ k'.inFlight = k.inFlight ∧ k'.ready = k.ready.drop room ∧
      k'.submitReports = k.submitReports ∧ k'.eventReports = []) := by
  change getEvents id minimum room k = (outcome, k') at h
  unfold getEvents at h
  split at h
  · cases h; exact .inl ⟨_, rfl, .refl k⟩
  · rcases answer_cases .getEvents _ k with ⟨errno, failures, ha⟩ | ha
    · rw [ha] at h
      cases h
      exact .inl ⟨errno, rfl, ⟨rfl, rfl, rfl, rfl⟩⟩
    · rw [ha] at h
      simp only [hr, List.head?_nil, Option.getD_none, List.tail_nil, Prod.mk.injEq] at h
      obtain ⟨rfl, rfl⟩ := h
      exact .inr ⟨_, _, rfl, rfl, rfl, rfl, rfl, rfl, rfl⟩

theorem submit_error (hr : k.submitReports = []) {id : UInt64} {batch : List Descriptor}
    {errno : Errno} (h : Kernel.submit id batch k = (.error errno, k')) : Untouched k k' := by
  rcases submit_spec hr h with ⟨_, -, hu⟩ | ⟨_, hc, -⟩
  · exact hu
  · cases hc

theorem submit_ok (hr : k.submitReports = []) {id : UInt64} {batch : List Descriptor} {count : Nat}
    (h : Kernel.submit id batch k = (.ok count, k')) :
    k'.inFlight = k.inFlight ++ (batch.take count).map (⟨id, ·⟩) ∧ k'.ready = k.ready ∧
      k'.submitReports = [] ∧ k'.eventReports = k.eventReports := by
  rcases submit_spec hr h with ⟨_, hc, -⟩ | ⟨_, hc, hk⟩
  · cases hc
  · cases hc; exact hk

theorem getEvents_error (hr : k.eventReports = []) {id : UInt64} {minimum room : Nat} {errno : Errno}
    (h : Kernel.getEvents id minimum room k = (.error errno, k')) : Untouched k k' := by
  rcases getEvents_spec hr h with ⟨_, -, hu⟩ | ⟨_, _, hc, -⟩
  · exact hu
  · cases hc

theorem getEvents_ok (hr : k.eventReports = []) {id : UInt64} {minimum room count : Nat}
    {written : List Record} (h : Kernel.getEvents id minimum room k = (.ok (count, written), k')) :
    written = k.ready.take room ∧ count = written.length ∧ k'.inFlight = k.inFlight ∧
      k'.ready = k.ready.drop room ∧ k'.submitReports = k.submitReports ∧ k'.eventReports = [] := by
  rcases getEvents_spec hr h with ⟨_, hc, -⟩ | ⟨_, _, hc, hk⟩
  · cases hc
  · cases hc; exact hk

/-! ## Operations -/

/-- The operations that remain were there before. -/
theorem mem_of_mem_remaining {before after : List Operation} {o x : Operation}
    (h : x ∈ before ++ after) : x ∈ before ++ o :: after := by
  rcases List.mem_append.1 h with h | h
  · exact List.mem_append_left _ h
  · exact List.mem_append_right _ (List.mem_cons_of_mem o h)

theorem takeInFlight_eq_some {slot : Slot} {ops rest : List Operation} {o : Operation}
    (h : takeInFlight slot ops = some (o, rest)) :
    o.slot = slot ∧ ∃ before after, ops = before ++ o :: after ∧ rest = before ++ after := by
  induction ops generalizing rest with
  | nil => cases h
  | cons x ops ih =>
    rw [takeInFlight] at h
    split at h
    · rename_i hx
      cases h
      exact ⟨hx, [], ops, rfl, rfl⟩
    · obtain ⟨⟨found, rest'⟩, hf, heq⟩ := Option.map_eq_some_iff.1 h
      cases heq
      obtain ⟨hs, before, after, rfl, rfl⟩ := ih hf
      exact ⟨hs, x :: before, after, rfl, rfl⟩

end SimulatedKernel

/-! ## Steps of the kernel by itself -/

namespace Machine

variable {count : Nat}

/-- The machine after an operation completed; `rest` are the operations that remain. -/
def afterCompletion (owner : Option UInt64) (o : Operation) (rest : List Operation)
    (bytes : List UInt8) (result : Int64) (m : Machine SimulatedKernel) : Machine SimulatedKernel :=
  { m.transferInto owner o bytes with
    kernel := { m.kernel with inFlight := rest }.deliver ⟨o.descriptor.tag, 0, result, 0⟩ }

/-- A completion is refused and changes nothing, or ends one operation of the slot. -/
theorem complete_cases (owner : Option UInt64) (slot : Slot) (bytes : List UInt8) (result : Int64)
    (m : Machine SimulatedKernel) :
    (∃ err, m.complete owner slot bytes result = (.error err, m)) ∨
    (∃ o before after, o.slot = slot ∧ m.kernel.inFlight = before ++ o :: after ∧
      bytes.length ≤ o.descriptor.length ∧ m.complete owner slot bytes result =
        (.ok (), m.afterCompletion owner o (before ++ after) bytes result)) := by
  unfold complete
  cases ht : SimulatedKernel.takeInFlight slot m.kernel.inFlight with
  | none => exact .inl ⟨_, rfl⟩
  | some x =>
    obtain ⟨o, rest⟩ := x
    obtain ⟨hs, before, after, ho, rfl⟩ := SimulatedKernel.takeInFlight_eq_some ht
    by_cases hlen : o.descriptor.length < bytes.length
    · exact .inl ⟨.tooLong, by simp only [if_pos hlen]⟩
    · exact .inr ⟨o, before, after, hs, ho, by omega, by simp only [if_neg hlen]; rfl⟩

/-- What a step of a truthful kernel can do. -/
inductive Progress (owner : Option UInt64) (count : Nat) (l : Ledger)
    (m : Machine SimulatedKernel) : Ledger → Machine SimulatedKernel → Prop
  | quiet {m' : Machine SimulatedKernel} (hk : m.kernel.Untouched m'.kernel)
    (hm : m'.memory.cells = m.memory.cells) : Progress owner count l m l m'
  | injected {r : Record} (hr : count ≤ r.slot.endpoint.toNat) :
    Progress owner count l m l { m with kernel := m.kernel.deliver r }
  | completed {o : Operation} {before after : List Operation} {bytes : List UInt8} {result : Int64}
    (ho : m.kernel.inFlight = before ++ o :: after) (hb : bytes.length ≤ o.descriptor.length) :
    Progress owner count l m (l.noteCompleted o.slot bytes result)
      (m.afterCompletion owner o (before ++ after) bytes result)

/-- **Every step of a truthful kernel is progress.** -/
theorem kernelStep_progress {step : KernelStep} (h : step.IsTruthful count)
    (owner : Option UInt64) (l : Ledger) (m : Machine SimulatedKernel) :
    Progress owner count l m (l.noteKernel owner step m) (m.kernelStep owner step).2 := by
  cases step with
  | reportSubmit n => exact h.elim
  | reportEvents n => exact h.elim
  | inject tag result => exact .injected (r := ⟨tag, 0, result, 0⟩) h
  | fail kind errno => exact .quiet ⟨rfl, rfl, rfl, rfl⟩ rfl
  | limitSubmit n => exact .quiet ⟨rfl, rfl, rfl, rfl⟩ rfl
  | shortRead length => exact .quiet ⟨rfl, rfl, rfl, rfl⟩ rfl
  | limitMemory bytes => exact .quiet ⟨rfl, rfl, rfl, rfl⟩ rfl
  | refuse purpose earlier => exact .quiet ⟨rfl, rfl, rfl, rfl⟩ rfl
  | complete slot bytes result =>
    rcases complete_cases owner slot bytes result m with
      ⟨err, hc⟩ | ⟨o, before, after, rfl, ho, hb, hc⟩
    · simp only [Ledger.noteKernel, kernelStep, hc]
      exact .quiet (.refl _) rfl
    · simp only [Ledger.noteKernel, kernelStep, hc]
      exact .completed ho hb

end Machine

end Gadget
