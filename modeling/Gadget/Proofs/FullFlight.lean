import Gadget.Proofs.Continuation
import Gadget.Proofs.Lifetime
import Gadget.Proofs.Safety
/-!
# Back to full flight

However a run went, with polls that failed after the completions were noted, batches that were taken in part
and buffers armed long ago, every buffer that the kernel does not have can be given to it again. Arming each
completed buffer once cannot fail (`rearm_all`), since a completed buffer can be named by its slot whatever
became of its completion, and there is room for it in the backlog. Then no buffer is completed, and
everything that is not in flight waits. A submission of which the kernel takes all (`Sound.submit_all`), or
as many submissions as buffers wait, if the kernel takes something each time (`submit_each`), put all of them
in flight.
-/
namespace Gadget

/-! ## The kernel -/

/-- A submission of which the kernel took something. -/
def Call.Accepted (c : Call) : Prop := ∃ id batch count, c = .submit id batch (.ok count) ∧ 1 ≤ count

namespace SimulatedKernel

variable {k : SimulatedKernel}

/-- No submission is going to fail, and the next is not limited to fewer than `count` descriptors. -/
def AcceptsAll (count : Nat) (k : SimulatedKernel) : Prop :=
  (∀ f ∈ k.failures, f.1 ≠ .submit) ∧ ∀ limit ∈ k.submitLimits.head?, count ≤ limit

instance (count : Nat) (k : SimulatedKernel) : Decidable (k.AcceptsAll count) := by
  unfold AcceptsAll; infer_instance

theorem submit_undisturbed {id : UInt64} {batch : List Descriptor} (hid : id ∈ k.contexts)
    (h : k.AcceptsAll batch.length) (hr : k.submitReports = []) :
    (Kernel.submit id batch k).1 = .ok batch.length := by
  obtain ⟨hf, hlimit⟩ := h
  have htaken : (batch.take (k.submitLimits.head?.getD batch.length)).length = batch.length := by
    rw [List.length_take, Nat.min_eq_right]
    cases hhead : k.submitLimits.head? with
    | none => exact Nat.le_refl _
    | some limit => exact hlimit limit (by rw [hhead]; rfl)
  show (submit id batch k).1 = _
  rw [submit, if_neg (not_not_intro hid),
    answer_undisturbed (k := { k with submissions := k.submissions + 1 }) hf]
  simp only [hr, List.head?_nil, Option.getD_none, htaken]

end SimulatedKernel

namespace Engine

section

variable {κ : Type} {e e' : Engine} {m m' : Machine κ} {slot : Slot} {call : EngineCall}
  {calls : List EngineCall}

/-! ## What is not in flight -/

/-- Nothing waits, and the kernel has every buffer. -/
structure InFullFlight (e : Engine) : Prop where
  idle : e.backlog.slots = []
  inFlight : ∀ b ∈ e.endpoints.buffers, b.phase = .inFlight

/-- How many buffers are armed or completed. -/
def grounded (e : Engine) : Nat :=
  e.endpoints.buffers.countP fun b => b.phase = .armed ∨ b.phase = .completed

/-- How many buffers are completed. -/
def completedCount (e : Engine) : Nat := e.endpoints.buffers.countP (·.phase = .completed)

theorem Sound.grounded_eq (hs : Sound e) : e.grounded = e.waiting + e.completedCount := by
  have hcensus := hs.census
  -- what is neither armed nor completed is in flight, since no buffer is idle
  have hsplit := List.length_eq_countP_add_countP (l := e.endpoints.buffers)
    (fun b => decide (b.phase = .armed ∨ b.phase = .completed))
  have hrest : (e.endpoints.buffers.countP fun b =>
      ¬ decide (b.phase = .armed ∨ b.phase = .completed) = true) = e.endpoints.inFlight := by
    refine List.countP_congr ?_
    intro b hb
    have hidle := hs.phase_ne_idle hb
    cases hp : b.phase with
    | idle => exact absurd hp hidle
    | armed => simp
    | inFlight => simp
    | completed => simp
  rw [hrest, ← hs.owned_eq] at hsplit
  simp only [grounded, waiting, completedCount] at *
  omega

/-- Without completed buffers, and with none that waits, all are in flight. -/
theorem Sound.inFullFlight (hs : Sound e) (hnone : ∀ s, e.phase? s ≠ some .completed)
    (hq : e.backlog.slots = []) : e.InFullFlight := by
  refine ⟨hq, ?_⟩
  intro b hb
  obtain ⟨s, file, hf⟩ := hs.exists_find? hb
  have hphase := EndpointTable.phase?_of_find? hf
  cases hp : b.phase with
  | inFlight => rfl
  | idle =>
    rw [hp] at hphase
    exact absurd hphase (hs.not_idle s)
  | completed =>
    rw [hp] at hphase
    exact absurd hphase (hnone s)
  | armed =>
    rw [hp] at hphase
    have hm := (hs.mem_backlog s).2 hphase
    rw [hq] at hm
    cases hm

/-! ## Arming every completed buffer -/

/-- The slot that a call arms again: it is named directly or by the index of a completion. -/
def target? (e : Engine) : EngineCall → Option Slot
  | .rearm slot _ => some slot
  | .rearmAt index _ => (e.completed index).toOption.map Record.slot
  | _ => none

/-- The calls arm every completed buffer again, each once and in any order and direction, and nothing
else. -/
def RearmsEach (calls : List EngineCall) (e : Engine) : Prop :=
  ∃ slots : List Slot, calls.map e.target? = slots.map some ∧ slots.Nodup ∧
    ∀ s, s ∈ slots ↔ e.phase? s = some .completed

/-- The slots of the completed buffers. -/
def completedSlots (e : Engine) : List Slot :=
  e.endpoints.slots.filter (e.phase? · = some .completed)

theorem mem_completedSlots (e : Engine) (s : Slot) :
    s ∈ e.completedSlots ↔ e.phase? s = some .completed := by
  rw [completedSlots, List.mem_filter, decide_eq_true_eq]
  constructor
  · rintro ⟨-, hp⟩
    exact hp
  · intro hp
    obtain ⟨file, b, hf, -⟩ := EndpointTable.phase?_eq_some_iff.1 hp
    exact ⟨EndpointTable.mem_slots_of_find? hf, hp⟩

theorem Sound.completedSlots_nodup (hs : Sound e) : e.completedSlots.Nodup :=
  (EndpointTable.slots_nodup hs.endpointCount_le hs.length_buffers_le).filter _

theorem Sound.length_completedSlots (hs : Sound e) : e.completedSlots.length = e.completedCount :=
  EndpointTable.length_eq_countP hs.endpointCount_le hs.length_buffers_le hs.completedSlots_nodup
    e.mem_completedSlots

/-- The calls arm each completed buffer if they name these slots in some order. -/
theorem Sound.rearmsEach_iff (hs : Sound e) :
    e.RearmsEach calls ↔ (calls.map e.target?).Perm (e.completedSlots.map some) := by
  constructor
  · rintro ⟨slots, htargets, hn, hmem⟩
    rw [htargets]
    refine ((List.perm_ext_iff_of_nodup hn hs.completedSlots_nodup).2 fun s => ?_).map some
    rw [hmem, mem_completedSlots]
  · intro hperm
    obtain ⟨slots, htargets, hperm⟩ := (congrFun₂ (List.eq_map_comp_perm some) _ _).mpr hperm
    refine ⟨slots, htargets, hperm.nodup_iff.2 hs.completedSlots_nodup, fun s => ?_⟩
    rw [hperm.mem_iff, mem_completedSlots]

theorem RearmsEach.length_eq (h : e.RearmsEach calls) (hs : Sound e) :
    calls.length = e.completedCount := by
  have hlength := (hs.rearmsEach_iff.1 h).length_eq
  rw [List.length_map, List.length_map, hs.length_completedSlots] at hlength
  exact hlength

/-- There always are such calls: every buffer has a slot. -/
theorem Sound.exists_rearmsEach (hs : Sound e) : ∃ calls, e.RearmsEach calls := by
  refine ⟨e.completedSlots.map fun slot => .rearm slot .read, hs.rearmsEach_iff.2 (.of_eq ?_)⟩
  rw [List.map_map]
  rfl

/-- Arming one buffer again leaves the completions that can be named as they are. -/
theorem Rearmed.target?_eq {direction : Direction} {file : Int32} {b : Buffer}
    (h : Rearmed slot direction file b e m e' m') (call : EngineCall) :
    e'.target? call = e.target? call := by
  have hcompleted : ∀ index, e'.completed index = e.completed index := by
    intro index
    rw [h.engine]
    rfl
  cases call with
  | rearmAt index direction => simp only [target?, hcompleted]
  | _ => rfl

/-- The first of the calls names a completed buffer. -/
theorem RearmsEach.exists_target (h : e.RearmsEach (call :: calls)) :
    ∃ slot, e.target? call = some slot ∧ e.phase? slot = some .completed := by
  obtain ⟨slots, htargets, -, hmem⟩ := h
  cases slots with
  | nil => cases htargets
  | cons slot slots => exact ⟨slot, (List.cons.inj htargets).1, (hmem slot).1 List.mem_cons_self⟩

/-- Once it is armed, the other calls remain. -/
theorem RearmsEach.rearmed {direction : Direction} {file : Int32} {b : Buffer}
    (h : e.RearmsEach (call :: calls)) (ht : e.target? call = some slot)
    (hr : Rearmed slot direction file b e m e' m') : e'.RearmsEach calls := by
  obtain ⟨slots, htargets, hn, hmem⟩ := h
  cases slots with
  | nil => cases htargets
  | cons first slots =>
  simp only [List.map_cons, List.cons.injEq] at htargets
  obtain ⟨hfirst, hrest⟩ := htargets
  rw [ht, Option.some.injEq] at hfirst
  subst hfirst
  obtain ⟨hnot, hn⟩ := List.nodup_cons.1 hn
  refine ⟨slots, ?_, hn, ?_⟩
  · rw [← hrest]
    exact List.map_congr_left fun call _ => hr.target?_eq call
  · intro s
    rw [phase?_eq, hr.phase?_eq]
    by_cases hs : s = slot
    · subst hs
      rw [if_pos rfl]
      exact ⟨fun hm => absurd hm hnot, fun hp => by cases hp⟩
    · rw [if_neg hs, ← phase?_eq, ← hmem s, List.mem_cons]
      exact ⟨.inr, fun hm => hm.resolve_left hs⟩

variable [Kernel κ]

/-- A call that names a completed buffer arms it. -/
theorem Sound.perform_of_target (hs : Sound e) (ht : e.target? call = some slot)
    (hp : e.phase? slot = some .completed) (m : Machine κ) :
    ∃ direction file b e' m', e.perform call m = (.ok .done, e', m') ∧
      Rearmed slot direction file b e m e' m' := by
  obtain ⟨file, b, hf, hb⟩ := EndpointTable.phase?_eq_some_iff.1 hp
  have hroom : e.backlog.room ≠ 0 := Nat.ne_of_gt (hs.room_of_completed hp)
  cases call with
  | rearm other direction =>
    cases ht
    obtain ⟨e', m', he, hr⟩ := rearm_of_completed hf hb hroom direction m
    exact ⟨direction, file, b, e', m', by simp only [perform, he, Refusal.ofError], hr⟩
  | rearmAt index direction =>
    cases hc : e.completed index with
    | error err =>
      rw [target?, hc] at ht
      cases ht
    | ok r =>
      rw [target?, hc] at ht
      cases ht
      obtain ⟨e', m', he, hr⟩ := rearm_of_completed hf hb hroom direction m
      have hperform : e.perform (.rearmAt index direction) m = (.ok .done, e', m') := by
        simp only [perform, rearmAt_eq hc, he, Refusal.ofError]
      exact ⟨direction, file, b, e', m', hperform, hr⟩
  | _ => cases ht

/-- **Arming every completed buffer again** succeeds, whatever the kernel does meanwhile. -/
theorem rearm_all {allowed : KernelStep → Prop} {steps : List Step} (hi : Interleaved allowed calls steps)
    {e : Engine} (hs : Sound e) (hr : e.RearmsEach calls) (m : Machine SimulatedKernel) :
    ∃ e' m', Session.run steps ⟨some e, m⟩ = ⟨some e', m'⟩ ∧
      Session.answers steps ⟨some e, m⟩ = List.replicate calls.length (.ok .done) ∧
      (∀ s, e'.phase? s ≠ some .completed) ∧ e'.waiting = e.waiting + calls.length := by
  -- the calls that remain arm exactly what is still completed, so that in the end nothing is
  induction hi generalizing e m with
  | nil =>
    obtain ⟨slots, htargets, -, hmem⟩ := hr
    refine ⟨e, m, rfl, rfl, ?_, rfl⟩
    intro s hp
    have hm := (hmem s).2 hp
    rw [List.map_eq_nil_iff.1 htargets.symm] at hm
    cases hm
  | @call calls steps call hi ih =>
    obtain ⟨slot, ht, hp⟩ := hr.exists_target
    obtain ⟨direction, file, b, e₁, m₁, he, hr₁⟩ := hs.perform_of_target ht hp m
    obtain ⟨e', m', hrun, hanswers, hnone, hwaiting⟩ := ih (hr₁.sound hs) (hr.rearmed ht hr₁) m₁
    have hstep : Session.perform (.call call) ⟨some e, m⟩ = (.ok .done, ⟨some e₁, m₁⟩) := by
      simp only [Session.perform, he]
    refine ⟨e', m', ?_, ?_, hnone, ?_⟩
    · rw [Session.run_cons, Session.step, hstep]
      exact hrun
    · rw [Session.answers, hstep, hanswers]
      rfl
    · have hpushed : e₁.waiting = e.waiting + 1 := by
        rw [hr₁.engine]
        exact List.length_append
      rw [hwaiting, hpushed, List.length_cons, Nat.add_right_comm, Nat.add_assoc]
  | kernel hk hi ih => exact ih hs hr _

end

/-! ## Submitting everything that waits -/

variable {l l' : Ledger} {e e' : Engine} {m m' : Machine SimulatedKernel} {calls : List EngineCall}
  {steps : List Step}

theorem Submitted.phase?_ne_completed {count : Nat} (h : Submitted count e m e' m') (hs : Sound e)
    (hnone : ∀ s, e.phase? s ≠ some .completed) (s : Slot) : e'.phase? s ≠ some .completed := by
  rw [Engine.phase?_eq, h.phase?_eq hs]
  split
  · intro hp
    cases hp
  · exact hnone s

theorem Submitted.waiting_eq {count : Nat} (h : Submitted count e m e' m') :
    e'.waiting = e.waiting - count := by
  rw [waiting, h.backlog]
  exact List.length_drop

/-- **A submission of which the kernel takes all** puts everything in flight that is not completed. -/
theorem Sound.submit_all (hs : Sound e) (hid : e.context.id ∈ m.kernel.contexts)
    (hreports : m.kernel.submitReports = []) (hall : m.kernel.AcceptsAll e.waiting)
    (hnone : ∀ s, e.phase? s ≠ some .completed) :
    ∃ e' m', e.submit m = (.ok e.waiting, e', m') ∧ e'.InFullFlight := by
  have hlength : e.batch.length = e.waiting := List.length_map _
  rw [← hlength] at hall
  have hkernel := SimulatedKernel.submit_undisturbed hid hall hreports
  rcases submit_cases hs m with ⟨hq, he⟩ | ⟨errno, m', -, hf⟩ | ⟨count, e', m', he, h⟩
  · refine ⟨e, m, ?_, hs.inFullFlight hnone hq⟩
    rw [he, waiting, Backlog.length, hq]
    rfl
  · rw [hf.kernel] at hkernel
    cases hkernel
  · rw [h.kernel, hlength] at hkernel
    cases hkernel
    refine ⟨e', m', ?_, (h.sound hs).inFullFlight (h.phase?_ne_completed hs hnone) ?_⟩
    · rw [he]
      exact congrArg (fun n => (Except.ok n, e', m')) (Nat.min_self _)
    · refine List.eq_nil_of_length_eq_zero ?_
      exact h.waiting_eq.trans (Nat.sub_self _)

/-- One submission takes something away from what waits, unless the kernel took nothing. -/
theorem Sound.submit_one (hs : Sound e) (hnone : ∀ s, e.phase? s ≠ some .completed)
    (m : Machine SimulatedKernel) : ∃ e' m' made, (e.perform .submit m).2 = (e', m') ∧
      m'.calls = m.calls ++ made ∧ Sound e' ∧ (∀ s, e'.phase? s ≠ some .completed) ∧
      ((∀ c ∈ made, c.Accepted) → e'.waiting ≤ e.waiting - 1) := by
  rcases submit_cases hs m with ⟨hq, he⟩ | ⟨errno, m', he, hf⟩ | ⟨count, e', m', he, h⟩
  · refine ⟨e, m, [], by simp only [perform, he], by simp, hs, hnone, fun _ => ?_⟩
    rw [waiting, Backlog.length, hq]
    exact Nat.zero_le _
  · refine ⟨e, m', _, by simp only [perform, he], hf.calls, hs, hnone, fun hmade => ?_⟩
    obtain ⟨id, batch, count, hc, -⟩ := hmade _ (List.mem_singleton_self _)
    cases hc
  · refine ⟨e', m', _, by simp only [perform, he], h.calls, h.sound hs,
      h.phase?_ne_completed hs hnone, fun hmade => ?_⟩
    obtain ⟨id, batch, n, hc, hpos⟩ := hmade _ (List.mem_singleton_self _)
    cases hc
    rw [h.waiting_eq]
    omega

/-- **Submitting again and again** leaves fewer buffers waiting each time, if the kernel takes something
each time. -/
theorem submit_each {allowed : KernelStep → Prop} (hi : Interleaved allowed calls steps)
    (hc : ∀ c ∈ calls, c = .submit) (hs : Sound e) (hnone : ∀ s, e.phase? s ≠ some .completed)
    (m : Machine SimulatedKernel) : ∃ e' m' made, Session.run steps ⟨some e, m⟩ = ⟨some e', m'⟩ ∧
      m'.calls = m.calls ++ made ∧ Sound e' ∧ (∀ s, e'.phase? s ≠ some .completed) ∧
      ((∀ c ∈ made, c.Accepted) → e'.waiting ≤ e.waiting - calls.length) := by
  induction hi generalizing e m with
  | nil => exact ⟨e, m, [], rfl, by simp, hs, hnone, fun _ => Nat.le_refl _⟩
  | @call calls steps call hi ih =>
    obtain rfl := hc call List.mem_cons_self
    obtain ⟨e₁, m₁, first, he, hfirst, hs₁, hnone₁, hless₁⟩ := hs.submit_one hnone m
    obtain ⟨e', m', rest, hrun, hrest, hs', hnone', hless⟩ :=
      ih (fun c hm => hc c (List.mem_cons_of_mem _ hm)) hs₁ hnone₁ m₁
    have hstep : (Session.perform (.call .submit) ⟨some e, m⟩).2 = ⟨some e₁, m₁⟩ := by
      simp only [Session.perform, he]
    refine ⟨e', m', first ++ rest, ?_, ?_, hs', hnone', ?_⟩
    · rw [Session.run_cons, Session.step, hstep]
      exact hrun
    · rw [hrest, hfirst, List.append_assoc]
    · intro hmade
      have h₁ := hless₁ fun c hm => hmade c (List.mem_append_left _ hm)
      have h₂ := hless fun c hm => hmade c (List.mem_append_right _ hm)
      rw [List.length_cons]
      omega
  | @kernel calls steps k hk hi ih =>
    obtain ⟨e', m', made, hrun, hmade, hrest⟩ := ih hc hs hnone (m.kernelStep (some e.context.id) k).2
    refine ⟨e', m', made, hrun, ?_, hrest⟩
    rw [hmade, (Machine.kernelStep_drift _ k m).calls]

/-! ## Polling in full flight -/

/-- The indices of a list name its members. -/
theorem map_getElem?_range {α : Type} (l : List α) :
    (List.range l.length).map (l[·]?) = l.map some := by
  refine List.ext_getElem (by simp) ?_
  intro i hi hi'
  rw [List.length_map] at hi'
  rw [List.getElem_map, List.getElem_map, List.getElem_range, List.getElem?_eq_getElem hi']

theorem InFullFlight.phase?_eq (h : e.InFullFlight) {s : Slot} {p : Phase} (hp : e.phase? s = some p) :
    p = .inFlight := by
  obtain ⟨file, b, hf, rfl⟩ := EndpointTable.phase?_eq_some_iff.1 hp
  exact h.inFlight b (EndpointTable.mem_buffers_of_find? hf)

section

variable {count : Nat} {written valid : List Record} {refused : List (Record × TransferError)}

theorem Polled.target?_rearmAt (h : Polled count written valid refused e m e' m') (index : Nat)
    (direction : Direction) : e'.target? (.rearmAt index direction) = (valid.map Record.slot)[index]? := by
  rw [target?, completed, h.delivered, List.getElem?_map]
  cases valid[index]? with
  | none => rfl
  | some r => rfl

/-- After a poll in full flight only the buffers of its completions are completed. -/
theorem Polled.perm_completedSlots (h : Polled count written valid refused e m e' m') (hs : Sound e)
    (hf : e.InFullFlight) : (valid.map Record.slot).Perm e'.completedSlots := by
  refine (List.perm_ext_iff_of_nodup h.settles.nodup (h.sound hs).completedSlots_nodup).2 ?_
  intro s
  rw [mem_completedSlots, Engine.phase?_eq, h.phase?_eq]
  split
  · rename_i hm
    exact ⟨fun _ => rfl, fun _ => hm⟩
  · rename_i hm
    refine ⟨fun hm' => absurd hm' hm, fun hp => ?_⟩
    cases hf.phase?_eq hp

end

/-- After a poll in full flight nothing waits, and the indices of its completions, in any order, name all
the completed buffers. -/
theorem Sound.poll_in_full_flight (hs : Sound e) (hf : e.InFullFlight) {n : Nat}
    (hp : e.poll m = (.ok n, e', m')) :
    e'.completedCount = n ∧ e'.waiting = 0 ∧
      ∀ picks : List (Nat × Direction), (picks.map Prod.fst).Perm (List.range n) →
        e'.RearmsEach (picks.map fun p => .rearmAt p.1 p.2) := by
  rcases poll_cases hs m with ⟨errno, m₁, he, -⟩ | ⟨count, written, valid, refused, e₁, m₁, he, h⟩
  · rw [hp] at he
    cases he
  rw [hp, Prod.mk.injEq, Prod.mk.injEq] at he
  obtain ⟨hout, rfl, rfl⟩ := he
  obtain rfl := pollOutcome_eq_ok hout.symm
  have hs' := h.sound hs
  have hslots := h.perm_completedSlots hs hf
  refine ⟨?_, ?_, ?_⟩
  · rw [← hs'.length_completedSlots, ← hslots.length_eq, List.length_map]
  · rw [waiting, h.backlog, Backlog.length, hf.idle]
    rfl
  · intro picks hpicks
    refine hs'.rearmsEach_iff.2 ?_
    calc (picks.map fun p => EngineCall.rearmAt p.1 p.2).map e'.target?
        = (picks.map Prod.fst).map ((valid.map Record.slot)[·]?) := by
          rw [List.map_map, List.map_map]
          exact List.map_congr_left fun p _ => h.target?_rearmAt p.1 p.2
      List.Perm _ ((List.range valid.length).map ((valid.map Record.slot)[·]?)) := hpicks.map _
      _ = (valid.map Record.slot).map some := by
          rw [← List.length_map Record.slot, map_getElem?_range]
      List.Perm _ (e'.completedSlots.map some) := hslots.map some

/-! ## Whole runs -/

/-- `count` buffers wait, and submitting them leaves every buffer in flight. -/
structure ReadyForFlight (count : Nat) (s : Session SimulatedKernel) : Prop where
  waiting : ∃ e, s.engine = some e ∧ e.waiting = count
  /-- One submission, if the kernel takes all. -/
  once : s.machine.kernel.AcceptsAll count →
    ∃ e' m', s.perform (.call .submit) = (.ok (.count count), ⟨some e', m'⟩) ∧ e'.InFullFlight
  /-- As many submissions as buffers wait, if the kernel takes something each time. -/
  often : ∀ n submits, count ≤ n →
    Interleaved KernelStep.IsHonest (List.replicate n .submit) submits →
    ∃ e' m' made, Session.run submits s = ⟨some e', m'⟩ ∧ m'.calls = s.machine.calls ++ made ∧
      ((∀ c ∈ made, c.Accepted) → e'.InFullFlight)

theorem Course.readyForFlight (h : Course (.simulated KernelStep.IsHonest) l e m)
    (hnone : ∀ s, e.phase? s ≠ some .completed) : ReadyForFlight e.waiting ⟨some e, m⟩ where
  waiting := ⟨e, rfl, rfl⟩
  once hall := by
    obtain ⟨e', m', he, hf⟩ :=
      h.sound.submit_all h.context_alive h.accounted_of_honest.trueCounts.1 hall hnone
    refine ⟨e', m', ?_, hf⟩
    simp only [Session.perform, perform, he, Refusal.ofFault]
  often n submits hn hi := by
    obtain ⟨e', m', made, hrun, hmade, hs, hnone', hless⟩ :=
      submit_each hi (fun c hm => List.eq_of_mem_replicate hm) h.sound hnone m
    refine ⟨e', m', made, hrun, hmade, fun haccepted => hs.inFullFlight hnone' ?_⟩
    have hzero := hless haccepted
    rw [List.length_replicate, Nat.sub_eq_zero_of_le hn] at hzero
    exact List.eq_nil_of_length_eq_zero (Nat.le_zero.1 hzero)

end Engine

namespace SingleEngine

variable {steps rearms : List Step} {calls : List EngineCall} {e : Engine}
  {m : Machine SimulatedKernel}

/-- Once every completed buffer is armed again, submitting puts everything in flight. -/
theorem ready_of_rearmed (h : SingleEngine KernelStep.IsHonest steps)
    (he : Session.run steps (.boot .fresh) = ⟨some e, m⟩) (hr : e.RearmsEach calls)
    (hi : Interleaved KernelStep.IsHonest calls rearms) :
    Session.answers rearms ⟨some e, m⟩ = List.replicate calls.length (.ok .done) ∧
      Engine.ReadyForFlight e.grounded (Session.run rearms ⟨some e, m⟩) := by
  obtain ⟨l, hc⟩ := h.exists_course he
  have hs := hc.sound
  obtain ⟨e', m', hrun, hanswers, hnone, hwaiting⟩ := Engine.rearm_all hi hs hr m
  refine ⟨hanswers, ?_⟩
  obtain ⟨l', hc'⟩ := (h.append hi).exists_course (e := e') (m := m') (by
    rw [Session.run_append, he, hrun])
  rw [hrun, hs.grounded_eq, ← hr.length_eq hs, ← hwaiting]
  exact hc'.readyForFlight hnone

/-- **An engine can always be brought back to full flight**, whatever became of it beside an honest kernel.
Arming every completed buffer again, in any order and direction, by slot or by the index of a completion,
succeeds for each of them. Then one submission of which the kernel takes all returns how many buffers were
armed or completed before and puts every buffer in flight, with none left waiting; so do as many submissions
as there are such buffers, if the kernel takes something each time. In particular, a poll in full flight that
brings `n` completions is made up for by arming these again, in any order of their indices, and one full
submission. -/
theorem back_to_full_flight (h : SingleEngine KernelStep.IsHonest steps)
    (he : Session.run steps (.boot .fresh) = ⟨some e, m⟩) :
    (∃ calls, e.RearmsEach calls) ∧
    (∀ calls rearms, e.RearmsEach calls → Interleaved KernelStep.IsHonest calls rearms →
      Session.answers rearms ⟨some e, m⟩ = List.replicate calls.length (.ok .done) ∧
        Engine.ReadyForFlight e.grounded (Session.run rearms ⟨some e, m⟩)) ∧
    (e.InFullFlight → ∀ n e₁ m₁, e.poll m = (.ok n, e₁, m₁) →
      (∀ picks : List (Nat × Direction), (picks.map Prod.fst).Perm (List.range n) →
        e₁.RearmsEach (picks.map fun p => .rearmAt p.1 p.2)) ∧
      ∀ calls rearms, e₁.RearmsEach calls → Interleaved KernelStep.IsHonest calls rearms →
        Session.answers rearms ⟨some e₁, m₁⟩ = List.replicate n (.ok .done) ∧
          Engine.ReadyForFlight n (Session.run rearms ⟨some e₁, m₁⟩)) := by
  obtain ⟨l, hc⟩ := h.exists_course he
  have hs := hc.sound
  refine ⟨hs.exists_rearmsEach, fun calls rearms hr hi => h.ready_of_rearmed he hr hi, ?_⟩
  intro hf n e₁ m₁ hp
  obtain ⟨hcompleted, hwaiting, hpicks⟩ := hs.poll_in_full_flight hf hp
  refine ⟨hpicks, ?_⟩
  intro calls rearms hr hi
  -- the poll is the last step of a longer run, in which all the completed buffers are its own
  have hpoll : Interleaved KernelStep.IsHonest [.poll] [.command (.call .poll)] := .call .poll .nil
  have he₁ : Session.run (steps ++ [.command (.call .poll)]) (.boot .fresh) = ⟨some e₁, m₁⟩ := by
    rw [Session.run_append, he]
    simp only [Session.run, List.foldl, Session.step, Session.perform, Engine.perform, hp]
  obtain ⟨l₁, hc₁⟩ := (h.append hpoll).exists_course he₁
  have hready := (h.append hpoll).ready_of_rearmed he₁ hr hi
  rw [hr.length_eq hc₁.sound, hc₁.sound.grounded_eq, hcompleted, hwaiting, Nat.zero_add] at hready
  exact hready

/-- Of four buffers one is back and one waits; arming the first for the other direction, while a second one
completes, and a submission put the two in flight. -/
theorem mixed_back_to_full_flight : ∃ e m e' m', Session.run mixedRun (.boot .fresh) = ⟨some e, m⟩ ∧
    e.phases = [some [.completed, .inFlight, .inFlight, .armed]] ∧
    (Session.run [.command (.call (.rearmAt 0 .write)), .kernel (.complete ⟨0, 2⟩ [3, 4] 2)]
      ⟨some e, m⟩).perform (.call .submit) = (.ok (.count 2), ⟨some e', m'⟩) ∧ e'.InFullFlight := by
  have h : SingleEngine KernelStep.IsHonest mixedRun := by decide
  have hphases : (Session.run mixedRun (.boot .fresh)).engine.map (fun e =>
      (e.phases, [EngineCall.rearmAt 0 .write].map e.target?, e.completedSlots.map some, e.grounded)) =
        some ([some [.completed, .inFlight, .inFlight, .armed]], [some ⟨0, 0⟩], [some ⟨0, 0⟩], 2) := by
    decide +kernel
  obtain ⟨e, he, hfacts⟩ := Option.map_eq_some_iff.1 hphases
  simp only [Prod.mk.injEq] at hfacts
  obtain ⟨hphases, htargets, hslots, hcount⟩ := hfacts
  have hrun := Session.eq_of_engine he
  obtain ⟨l, hc⟩ := h.exists_course hrun
  have hr : e.RearmsEach [.rearmAt 0 .write] :=
    hc.sound.rearmsEach_iff.2 (.of_eq (htargets.trans hslots.symm))
  obtain ⟨-, hready⟩ := (back_to_full_flight h hrun).2.1 _
    [.command (.call (.rearmAt 0 .write)), .kernel (.complete ⟨0, 2⟩ [3, 4] 2)] hr
    (.call _ (.kernel trivial .nil))
  rw [hcount, ← hrun, ← Session.run_append] at hready
  obtain ⟨e', m', hsubmit, hflight⟩ := hready.once (by decide +kernel)
  rw [Session.run_append, hrun] at hsubmit
  exact ⟨e, _, e', m', hrun, hphases, hsubmit, hflight⟩

end SingleEngine
end Gadget
