import Gadget.Proofs.Reachable
/-!
# A call that fails leaves no trace

Calls change an engine in several steps and can fail between them. `Undisturbed` says what a failed call
leaves as it was: the endpoints with every phase and descriptor, the backlog, the counts, and all memory.
A poll forgets the completions of the poll before it, and that is all. A call that fails because the
kernel refused reports the kernel's own number, and a submission that was refused offers the same batch
when it is repeated.
-/
namespace Gadget

/-- The number with which a call fails that drives an engine. A read is to bring eight bytes. -/
def Call.failure? : Call → Option Errno
  | .submit _ _ (.error errno) => some errno
  | .getEvents _ _ _ (.error errno) => some errno
  | .read _ (.error errno) => some errno
  | .read _ (.ok length) => if length = 8 then none else some .inputOutput
  | _ => none

namespace Refusal

theorem ofFault_eq_error {α : Type} {answer : α → Answer} {x : Except Fault α} {r : Refusal}
    (h : ofFault answer x = .error r) : ∃ f, x = .error f := by
  cases x with
  | error f => exact ⟨f, rfl⟩
  | ok a => cases h

theorem ofError_eq_error {α : Type} {answer : α → Answer} {x : Except TransferError α} {r : Refusal}
    (h : ofError answer x = .error r) : ∃ err, x = .error err := by
  cases x with
  | error err => exact ⟨err, rfl⟩
  | ok a => cases h

end Refusal

namespace Engine

variable {κ : Type} [Kernel κ] {e e' : Engine} {m m' : Machine κ}

/-- Of an engine and the memory beside it, only the completions that can be looked at may differ. -/
structure Undisturbed (e : Engine) (m : Machine κ) (e' : Engine) (m' : Machine κ) : Prop where
  endpoints : e'.endpoints = e.endpoints
  backlog : e'.backlog = e.backlog
  owned : e'.owned = e.owned
  maxEvents : e'.maxEvents = e.maxEvents
  handles : e'.context = e.context ∧ e'.doorbell = e.doorbell
  bytes : ∀ region, m'.memory.bytes region = m.memory.bytes region
  isLive : ∀ region, m'.memory.isLive region = m.memory.isLive region

omit [Kernel κ] in
theorem Undisturbed.of_memory_eq (e : Engine) (h : m'.memory = m.memory) : Undisturbed e m e m' where
  endpoints := rfl
  backlog := rfl
  owned := rfl
  maxEvents := rfl
  handles := ⟨rfl, rfl⟩
  bytes _ := by rw [h]
  isLive _ := by rw [h]

omit [Kernel κ] in
theorem Undisturbed.refl (e : Engine) (m : Machine κ) : Undisturbed e m e m := .of_memory_eq e rfl

/-! ## Each call -/

theorem equip_error (hs : Sound e) {index : Nat} {plan : EndpointPlan} {f : Fault}
    (h : e.equip index plan m = (.error f, e', m')) : e' = e ∧ Undisturbed e m e' m' := by
  rcases equip_cases hs index plan m with ⟨err, k, m₁, he, hg⟩ | ⟨buffers, e₁, m₁, he, -⟩
  · rw [he] at h
    cases h
    exact ⟨rfl, rfl, rfl, rfl, rfl, ⟨rfl, rfl⟩, Memory.bytes_append_released hg.cells,
      Memory.isLive_append_released hg.cells⟩
  · rw [he] at h
    cases h

/-- A submission fails only because the kernel refuses it. -/
theorem submit_error (hs : Sound e) {f : Fault} (h : e.submit m = (.error f, e', m')) :
    e' = e ∧ ∃ errno, f = .error (.callFailed errno) ∧ SubmitFailed errno e m m' := by
  rcases submit_cases hs m with ⟨-, he⟩ | ⟨errno, m₁, he, hf⟩ | ⟨count, e₁, m₁, he, -⟩
  · rw [he] at h
    cases h
  · rw [he] at h
    cases h
    exact ⟨rfl, errno, rfl, hf⟩
  · rw [he] at h
    cases h

theorem poll_error (hs : Sound e) {f : Fault} (h : e.poll m = (.error f, e', m')) :
    e'.ready = 0 ∧ Undisturbed e m e' m' := by
  rcases poll_cases hs m with ⟨errno, m₁, he, hf⟩ | ⟨count, written, valid, refused, e₁, m₁, he, hp⟩
  · rw [he] at h
    cases h
    exact ⟨rfl, rfl, rfl, rfl, rfl, ⟨rfl, rfl⟩, fun _ => by rw [hf.memory], fun _ => by rw [hf.memory]⟩
  · rw [he] at h
    obtain ⟨hout, rfl, rfl⟩ : pollOutcome valid refused = .error f ∧ e₁ = e' ∧ m₁ = m' := by
      simpa using h
    have hv := pollOutcome_eq_error hout
    -- the records changed nothing, since each of them was refused
    have hnone : (EndpointTable.settle ((e.array written).take count) e.endpoints).1 = [] := by
      rw [hp.settled]; exact hv
    have hsame := EndpointTable.settle_of_refused hnone
    rw [hp.settled] at hsame
    exact ⟨by rw [hp.ready, hv]; rfl, hsame, hp.backlog, hp.owned, hp.maxEvents_eq, hp.handles,
      fun _ => by rw [hp.memory], fun _ => by rw [hp.memory]⟩

omit [Kernel κ] in
theorem rearm_error {slot : Slot} {direction : Direction} {err : TransferError}
    (h : e.rearm slot direction m = (.error err, e', m')) : e' = e ∧ m' = m := by
  rcases rearm_cases slot direction e m with ⟨err', he⟩ | ⟨file, b, e₁, m₁, he, -⟩
  · rw [he] at h
    cases h
    exact ⟨rfl, rfl⟩
  · rw [he] at h
    cases h

omit [Kernel κ] in
theorem rearmAt_unchanged {index : Nat} {direction : Direction} {err : TransferError}
    (h : e.rearmAt index direction m = (.error err, e', m')) : e' = e ∧ m' = m := by
  cases hc : e.completed index with
  | error err' =>
    rw [rearmAt_error hc] at h
    cases h
    exact ⟨rfl, rfl⟩
  | ok r =>
    rw [rearmAt_eq hc] at h
    exact rearm_error h

omit [Kernel κ] in
theorem rearm_calls_eq (slot : Slot) (direction : Direction) (e : Engine) (m : Machine κ) :
    (e.rearm slot direction m).2.2.calls = m.calls := by
  rcases rearm_cases slot direction e m with ⟨err, he⟩ | ⟨file, b, e', m', he, h⟩
  · rw [he]
  · rw [he, h.machine]; rfl

omit [Kernel κ] in
theorem writeInto_calls_eq (lent : Except Fault Region) (start : Nat) (bytes : List UInt8)
    (m : Machine κ) : (writeInto lent start bytes m).2.calls = m.calls := by
  cases lent <;> rfl

omit [Kernel κ] in
theorem writeInto_error {lent : Except Fault Region} {start : Nat} {bytes : List UInt8} {f : Fault}
    (h : writeInto lent start bytes m = (.error f, m')) : m' = m := by
  cases lent with
  | error f' => cases h; rfl
  | ok region => cases h

/-- **A failed call leaves the engine and its memory as they were**, and only a poll forgets the
completions of the poll before it. -/
theorem perform_error (hs : Sound e) {call : EngineCall} {r : Refusal}
    (h : e.perform call m = (.error r, e', m')) :
    Undisturbed e m e' m' ∧ if call = .poll then e'.ready = 0 else e' = e := by
  cases call with
  | equip index plan =>
    obtain ⟨hout, rfl, rfl⟩ := by simpa only [perform, Prod.mk.injEq] using h
    obtain ⟨f, hf⟩ := Refusal.ofFault_eq_error hout
    obtain ⟨he, hu⟩ := equip_error hs (Prod.ext hf rfl)
    exact ⟨hu, he⟩
  | submit =>
    obtain ⟨hout, rfl, rfl⟩ := by simpa only [perform, Prod.mk.injEq] using h
    obtain ⟨f, hf⟩ := Refusal.ofFault_eq_error hout
    obtain ⟨he, errno, -, hfailed⟩ := submit_error hs (Prod.ext hf rfl)
    refine ⟨?_, he⟩
    rw [he]
    exact .of_memory_eq e hfailed.memory
  | poll =>
    obtain ⟨hout, rfl, rfl⟩ := by simpa only [perform, Prod.mk.injEq] using h
    obtain ⟨f, hf⟩ := Refusal.ofFault_eq_error hout
    obtain ⟨hready, hu⟩ := poll_error hs (Prod.ext hf rfl)
    exact ⟨hu, hready⟩
  | rearm slot direction =>
    obtain ⟨hout, rfl, rfl⟩ := by simpa only [perform, Prod.mk.injEq] using h
    obtain ⟨err, hf⟩ := Refusal.ofError_eq_error hout
    obtain ⟨he, hm⟩ := rearm_error (Prod.ext hf rfl)
    rw [he, hm]
    exact ⟨.refl e m, rfl⟩
  | rearmAt index direction =>
    obtain ⟨hout, rfl, rfl⟩ := by simpa only [perform, Prod.mk.injEq] using h
    obtain ⟨err, hf⟩ := Refusal.ofError_eq_error hout
    obtain ⟨he, hm⟩ := rearmAt_unchanged (Prod.ext hf rfl)
    rw [he, hm]
    exact ⟨.refl e m, rfl⟩
  | write slot start bytes =>
    obtain ⟨hout, rfl, rfl⟩ := by simpa only [perform, Prod.mk.injEq] using h
    obtain ⟨f, hf⟩ := Refusal.ofFault_eq_error hout
    have hm := writeInto_error (Prod.ext hf rfl)
    exact ⟨.of_memory_eq e (congrArg Machine.memory hm), rfl⟩
  | writeAt index start bytes =>
    obtain ⟨hout, rfl, rfl⟩ := by simpa only [perform, Prod.mk.injEq] using h
    obtain ⟨f, hf⟩ := Refusal.ofFault_eq_error hout
    have hm := writeInto_error (Prod.ext hf rfl)
    exact ⟨.of_memory_eq e (congrArg Machine.memory hm), rfl⟩
  | inspect index =>
    obtain ⟨-, rfl, rfl⟩ := by simpa only [perform, Prod.mk.injEq] using h
    exact ⟨.refl e m, rfl⟩
  | delivered => cases h
  | size => cases h
  | endpoint index => cases h
  | phase slot => cases h

/-! ## What the kernel refuses is reported -/

/-- Only submissions and polls ask anything of the kernel. -/
theorem perform_calls_eq (hs : Sound e) {call : EngineCall} (m : Machine κ) (hsubmit : call ≠ .submit)
    (hpoll : call ≠ .poll) : (e.perform call m).2.2.calls = m.calls := by
  cases call with
  | submit => exact absurd rfl hsubmit
  | poll => exact absurd rfl hpoll
  | equip index plan =>
    rcases equip_cases hs index plan m with ⟨err, k, m', he, hg⟩ | ⟨buffers, e', m', he, h⟩
    · simp only [perform, he]; exact hg.calls
    · simp only [perform, he]; exact h.machine.calls
  | rearm slot direction => exact rearm_calls_eq slot direction e m
  | rearmAt index direction =>
    cases hc : e.completed index with
    | error err => simp only [perform, rearmAt_error hc]
    | ok r =>
      simp only [perform, rearmAt_eq hc]
      exact rearm_calls_eq r.slot direction e m
  | write slot start bytes => exact writeInto_calls_eq _ start bytes m
  | writeAt index start bytes => exact writeInto_calls_eq _ start bytes m
  | inspect index => rfl
  | delivered => rfl
  | size => rfl
  | endpoint index => rfl
  | phase slot => rfl

/-- A submission makes one call, if there is anything to submit. -/
theorem submit_calls_eq (hs : Sound e) (hne : e.backlog.slots ≠ []) (m : Machine κ) :
    ∃ outcome, (e.submit m).2.2.calls = m.calls ++ [.submit e.context.id e.batch outcome] := by
  rcases submit_cases hs m with ⟨hq, -⟩ | ⟨errno, m', he, h⟩ | ⟨count, e', m', he, h⟩
  · exact absurd hq hne
  · exact ⟨_, by rw [he]; exact h.calls⟩
  · exact ⟨_, by rw [he]; exact h.calls⟩

theorem submit_failure (hs : Sound e) (m : Machine κ) :
    ∃ made, (e.submit m).2.2.calls = m.calls ++ made ∧ ∀ c ∈ made, ∀ errno,
      c.failure? = some errno → (e.submit m).1 = .error (.error (.callFailed errno)) := by
  rcases submit_cases hs m with ⟨-, he⟩ | ⟨errno, m', he, h⟩ | ⟨count, e', m', he, h⟩
  · exact ⟨[], by rw [he, List.append_nil], by simp⟩
  · refine ⟨_, by rw [he]; exact h.calls, ?_⟩
    simp [he, Call.failure?]
  · refine ⟨_, by rw [he]; exact h.calls, ?_⟩
    simp [Call.failure?]

theorem poll_failure (hs : Sound e) (m : Machine κ) :
    ∃ made, (e.poll m).2.2.calls = m.calls ++ made ∧ ∀ c ∈ made, ∀ errno,
      c.failure? = some errno → (e.poll m).1 = .error (.error (.callFailed errno)) := by
  rcases poll_cases hs m with ⟨errno, m', he, h⟩ | ⟨count, written, valid, refused, e', m', he, h⟩
  · rcases h.kernel with ⟨-, hc⟩ | ⟨length, signaled, -, hshort, rfl, hc⟩ | ⟨signaled, k, -, -, hc⟩
    · refine ⟨_, by rw [he]; exact hc, ?_⟩
      simp [he, Call.failure?]
    · refine ⟨_, by rw [he]; exact hc, ?_⟩
      simp [he, Call.failure?, hshort]
    · refine ⟨_, by rw [he]; exact hc, ?_⟩
      simp [he, Call.failure?]
  · obtain ⟨signaled, k, -, -, hc, -⟩ := h.kernel
    refine ⟨_, by rw [he]; exact hc, ?_⟩
    simp [Call.failure?]

/-- **What the kernel refuses is reported** with the kernel's number, and the call fails. -/
theorem perform_failure (hs : Sound e) (call : EngineCall) (m : Machine κ) :
    ∃ made, (e.perform call m).2.2.calls = m.calls ++ made ∧ ∀ c ∈ made, ∀ errno,
      c.failure? = some errno →
        (e.perform call m).1 = .error (.fault (.error (.callFailed errno))) := by
  by_cases hsubmit : call = .submit
  · subst hsubmit
    obtain ⟨made, hc, hf⟩ := submit_failure hs m
    exact ⟨made, hc, fun c hm errno he => by simp only [perform, hf c hm errno he, Refusal.ofFault]⟩
  by_cases hpoll : call = .poll
  · subst hpoll
    obtain ⟨made, hc, hf⟩ := poll_failure hs m
    exact ⟨made, hc, fun c hm errno he => by simp only [perform, hf c hm errno he, Refusal.ofFault]⟩
  exact ⟨[], by rw [perform_calls_eq hs m hsubmit hpoll, List.append_nil], by simp⟩

/-! ## The law -/

/-- **Every failing call is atomic**, beside any kernel: it leaves the endpoints with all phases and
descriptors, the backlog, the counts and all memory as they were, and a poll merely forgets the
completions of the poll before it. A kernel call that fails makes the call fail with the same number.
A submission that failed offers the same batch, in the order of arming, when it is repeated. -/
theorem Reachable.failure_atomic (h : Reachable e m) (call : EngineCall) :
    (∀ r e' m', e.perform call m = (.error r, e', m') →
      Undisturbed e m e' m' ∧ if call = .poll then e'.ready = 0 else e' = e) ∧
    (∃ made, (e.perform call m).2.2.calls = m.calls ++ made ∧ ∀ c ∈ made, ∀ errno,
      c.failure? = some errno →
        (e.perform call m).1 = .error (.fault (.error (.callFailed errno)))) ∧
    ∀ f e' m', e.submit m = (.error f, e', m') → ∃ errno outcome,
      f = .error (.callFailed errno) ∧
      m'.calls = m.calls ++ [.submit e.context.id
        (e.backlog.slots.map e.endpoints.descriptorAt) (.error errno)] ∧
      (e'.submit m').2.2.calls = m'.calls ++ [.submit e.context.id
        (e.backlog.slots.map e.endpoints.descriptorAt) outcome] := by
  have hs := h.sound
  refine ⟨fun r e' m' he => perform_error hs he, perform_failure hs call m, ?_⟩
  intro f e' m' he
  have hne : e.backlog.slots ≠ [] := by
    intro hq
    simp [submit, Backlog.isEmpty, hq] at he
  obtain ⟨rfl, errno, rfl, hf⟩ := submit_error hs he
  obtain ⟨outcome, hc⟩ := submit_calls_eq hs hne m'
  exact ⟨errno, outcome, rfl, hf.calls, hc⟩

/-- Two buffers wait; the fourth region and the next submission will be refused. -/
def refusedRun : List Step :=
  [.command (.create 2 4), .command (.call (.equip 0 ⟨7, .read, 2, 4, 1⟩)),
    .kernel (.refuse .region 3), .kernel (.fail .submit .again)]

/-- The second of two regions is refused: the first is given back. A refused submission offers the same
batch again. -/
theorem Reachable.refused_call_atomic : ∃ (e : Engine) (m : Machine SimulatedKernel) (e' : Engine)
    (m' m'' : Machine SimulatedKernel), Reachable e m ∧
      e.equip 1 ⟨8, .write, 2, 4, 0⟩ m = (.error (.error .outOfMemory), e', m') ∧
      m'.memory.requests = m.memory.requests + 2 ∧ Undisturbed e m e' m' ∧ e' = e ∧
      e.submit m = (.error (.error (.callFailed .again)), e, m'') ∧ ∃ outcome,
      (e.submit m'').2.2.calls = m''.calls ++ [.submit e.context.id
        (e.backlog.slots.map e.endpoints.descriptorAt) outcome] := by
  let w := Watched.run refusedRun
  have hequip : w.session.engine.map (fun e => ((e.equip 1 ⟨8, .write, 2, 4, 0⟩ w.session.machine).1,
      (e.equip 1 ⟨8, .write, 2, 4, 0⟩ w.session.machine).2.2.memory.requests,
      (e.submit w.session.machine).1)) = some (.error (.error .outOfMemory),
        w.session.machine.memory.requests + 2, .error (.error (.callFailed .again))) := by
    decide +kernel
  obtain ⟨e, he, hequip⟩ := Option.map_eq_some_iff.1 hequip
  obtain ⟨hout, hrequests, hsubmit⟩ := by simpa only [Prod.mk.injEq] using hequip
  have hr := (SingleEngine.course (by decide : SingleEngine (fun _ => True) refusedRun) he).reachable
  have hperform : e.perform (.equip 1 ⟨8, .write, 2, 4, 0⟩) w.session.machine =
      (.error (.fault (.error .outOfMemory)), (e.equip 1 ⟨8, .write, 2, 4, 0⟩ w.session.machine).2) := by
    simp only [perform, hout, Refusal.ofFault]
  obtain ⟨hu, hsame⟩ := (Reachable.failure_atomic hr _).1 _ _ _ hperform
  have hfailed : e.submit w.session.machine = (.error (.error (.callFailed .again)), e,
      (e.submit w.session.machine).2.2) :=
    Prod.ext hsubmit (Prod.ext (submit_error hr.sound (Prod.ext hsubmit rfl)).1 rfl)
  obtain ⟨errno, outcome, -, -, hagain⟩ :=
    (Reachable.failure_atomic hr .submit).2.2 _ _ _ hfailed
  exact ⟨e, _, _, _, _, hr, Prod.ext hout rfl, hrequests, hu, hsame, hfailed, outcome, hagain⟩

end Engine

end Gadget
