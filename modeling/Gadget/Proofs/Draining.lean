import Gadget.Proofs.Lifetime
import Gadget.Proofs.WakeUp
/-!
# A poll that succeeds leaves nothing behind

Records pile up while polls fail, and one collection asks for no more than `maxEvents` of them. That is
enough: what an honest kernel has in stock, operations and uncollected records together, are buffers of the
engine, each once (`Engine.Accounted`), and the engine owns `maxEvents` at most. Only a submission adds to
the stock, so the bound outlasts the engine (`OneEngine.stock_le`).
-/
namespace Gadget

/-! ## The stock without an engine -/

/-- What an honest kernel does by itself turns operations into records. -/
theorem Machine.kernelStep_stock {step : KernelStep} (h : step.IsHonest) (owner : Option UInt64)
    (m : Machine SimulatedKernel) : (m.kernelStep owner step).2.kernel.stock = m.kernel.stock := by
  cases step with
  | reportSubmit n => exact h.elim
  | reportEvents n => exact h.elim
  | inject tag result => exact h.elim
  | complete slot bytes result =>
    rcases complete_cases owner slot bytes result m with ⟨err, hc⟩ | ⟨o, before, after, -, ho, -, hc⟩ <;>
      rw [kernelStep, hc]
    simp only [SimulatedKernel.stock, afterCompletion, SimulatedKernel.deliver, ho, List.length_append,
      List.length_cons, List.length_nil]
    omega
  | fail kind errno => rfl
  | limitSubmit n => rfl
  | shortRead length => rfl
  | limitMemory bytes => rfl
  | refuse purpose earlier => rfl

/-- Letting go of an engine adds nothing to the stock. -/
theorem Engine.Dropped.stock_le {destroyed closed : Except Errno Unit} {e : Engine}
    {m m' : Machine SimulatedKernel} (h : Dropped destroyed closed e m m') :
    m'.kernel.stock ≤ m.kernel.stock := by
  obtain ⟨k, hdestroy, hclose⟩ := h.kernel
  obtain ⟨hops', hready', -⟩ := SimulatedKernel.close_steady hclose
  rw [SimulatedKernel.stock, hops', hready']
  rcases SimulatedKernel.destroy_cases hdestroy with ⟨errno, -, hops, hready, -⟩ | ⟨-, hops, hready⟩ <;>
    rw [hops, hready]
  · exact Nat.le_refl _
  · exact Nat.zero_le _

namespace Session

variable {s : Session SimulatedKernel} {step : Step} {e' : Engine}

/-- An engine that a step leaves behind was there before, with a record array of the same size. -/
theorem maxEvents_of_step (hs : ¬ step.creates) (hsound : ∀ e, s.engine = some e → e.Sound)
    (he' : (s.step step).engine = some e') : ∃ e, s.engine = some e ∧ e'.maxEvents = e.maxEvents := by
  cases step with
  | kernel k => exact ⟨e', he', rfl⟩
  | command c =>
    change (s.perform c).2.engine = some e' at he'
    rcases s.perform_cases hs with ⟨he, hp⟩ | ⟨e, -, -, hp⟩ | ⟨e, call, he, -, hp⟩ <;> rw [hp] at he'
    · rw [he] at he'
      cases he'
    · cases he'
    · cases he'
      exact ⟨e, he, (Engine.perform_effect (hsound e he) call .empty s.machine).maxEvents_eq⟩

/-- A step after which there is no engine adds nothing to the stock. -/
theorem stock_of_step (hs : ¬ step.creates) (hk : ∀ k, step = .kernel k → k.IsHonest)
    (hopen : ∀ e, s.engine = some e → e.context.closed = false) (hn : (s.step step).engine = none) :
    (s.step step).machine.kernel.stock ≤ s.machine.kernel.stock := by
  cases step with
  | kernel k => exact Nat.le_of_eq (Machine.kernelStep_stock (hk k rfl) _ _)
  | command c =>
    change (s.perform c).2.engine = none at hn
    show (s.perform c).2.machine.kernel.stock ≤ s.machine.kernel.stock
    rcases s.perform_cases hs with ⟨-, hp⟩ | ⟨e, he, -, hp⟩ | ⟨e, call, -, -, hp⟩
    · exact Nat.le_of_eq (by rw [hp])
    · obtain ⟨destroyed, closed, hd⟩ := Engine.drop_spec (hopen e he) s.machine
      rw [hp]
      exact hd.stock_le
    · rw [hp] at hn
      cases hn

end Session

/-! ## Whole runs -/

namespace OneEngine

variable {steps before after : List Step} {e : Engine}

/-- While there is the engine, the stock fits its record array. -/
theorem stock_le_of_engine (h : OneEngine KernelStep.IsHonest steps)
    (he : (Watched.run steps).session.engine = some e) :
    (Watched.run steps).session.machine.kernel.stock ≤ e.maxEvents :=
  (h.course he).accounted_of_honest.stock_le (h.course he).sound

/-- Once there was an engine, no step requests one. -/
theorem not_creates_of_engine {s : Step} (h : OneEngine KernelStep.IsHonest (before ++ after ++ [s]))
    (he : (Watched.run before).session.engine = some e) : ¬ s.creates := by
  intro hs
  have hone := h.creations
  rw [List.append_assoc, List.countP_append, List.countP_append, List.countP_singleton, if_pos hs] at hone
  have hbefore : OneEngine KernelStep.IsHonest before :=
    ⟨by omega, fun k hm => h.kernel k (by simp [hm])⟩
  rcases hbefore.stages with ⟨-, hn, -⟩ | ⟨-, hn⟩ | ⟨hz, -⟩
  · rw [he] at hn
    cases hn
  · rw [he] at hn
    cases hn
  · omega

/-- The stock fits the record array of an engine from when there is the engine on, and still does when it
was let go of. -/
theorem stock_le (h : OneEngine KernelStep.IsHonest (before ++ after))
    (he : (Watched.run before).session.engine = some e) :
    (Watched.run (before ++ after)).session.machine.kernel.stock ≤ e.maxEvents ∧
      ∀ e', (Watched.run (before ++ after)).session.engine = some e' → e'.maxEvents = e.maxEvents := by
  induction after using List.reverseRecOn with
  | nil =>
    rw [List.append_nil] at h ⊢
    refine ⟨h.stock_le_of_engine he, fun e' he' => ?_⟩
    rw [he] at he'
    cases he'
    rfl
  | append_singleton after s ih =>
    rw [← List.append_assoc] at h ⊢
    obtain ⟨hstock, hsize⟩ := ih h.of_append
    have hs := h.not_creates_of_engine he
    have hsize' : ∀ e', (Watched.run (before ++ after ++ [s])).session.engine = some e' →
        e'.maxEvents = e.maxEvents := by
      intro e' he'
      rw [Watched.run_append_singleton] at he'
      obtain ⟨e₀, he₀, hmax⟩ :=
        Session.maxEvents_of_step hs (fun e₀ he₀ => (h.of_append.course he₀).sound) he'
      exact hmax.trans (hsize e₀ he₀)
    refine ⟨?_, hsize'⟩
    cases hnew : (Watched.run (before ++ after ++ [s])).session.engine with
    | some e' =>
      rw [← hsize' e' hnew]
      exact h.stock_le_of_engine hnew
    | none =>
      rw [Watched.run_append_singleton] at hnew ⊢
      exact Nat.le_trans (Session.stock_of_step hs (fun k hk => h.kernel k (by simp [hk]))
        (fun e₀ he₀ => (h.of_append.course he₀).unclosed) hnew) hstock

/-- **A poll that succeeds drains the kernel.** In a run of one engine beside an honest kernel, however
often polls failed, there are never more records ready than the engine's record array holds, from when there
is the engine on. A poll that returns `n` makes one collection, which returns all of the `n` records that
were ready. -/
theorem poll_drains (h : OneEngine KernelStep.IsHonest steps) :
    let s := Session.run steps (.boot .fresh)
    (∀ before after e, steps = before ++ after →
      (Session.run before (.boot .fresh)).engine = some e → s.machine.kernel.ready.length ≤ e.maxEvents) ∧
    (∀ e n e' m', s.engine = some e → e.poll s.machine = (.ok n, e', m') →
      n = s.machine.kernel.ready.length ∧ e'.records.take e'.ready = s.machine.kernel.ready ∧
        m'.kernel.ready = [] ∧ m'.calls = s.machine.calls ++
          [.read e.doorbell.file (.ok 8), .getEvents e.context.id 1 e.maxEvents (.ok n)]) := by
  rw [← Watched.session_run]
  constructor
  · rintro before after e rfl he
    rw [← Watched.session_run] at he
    have hle := (h.stock_le he).1
    rw [SimulatedKernel.stock] at hle
    show (Watched.run (before ++ after)).session.machine.kernel.ready.length ≤ e.maxEvents
    omega
  · intro e n e' m' he hpoll
    have hc := h.course he
    have ha := hc.accounted_of_honest
    rcases Engine.poll_cases hc.sound (Watched.run steps).session.machine with
      ⟨errno, m₁, hp, -⟩ | ⟨received, written, valid, refused, e₁, m₁, hp, hpolled⟩
    · rw [hp] at hpoll
      cases hpoll
    · rw [hp] at hpoll
      obtain ⟨hn, rfl, rfl⟩ : Engine.pollOutcome valid refused = .ok n ∧ e₁ = e' ∧ m₁ = m' := by
        simpa using hpoll
      obtain ⟨hready, rfl, hempty⟩ := ha.ready_of_polled hc.sound hpolled
      obtain ⟨signaled, k, -, -, hcalls, -⟩ := hpolled.kernel
      cases Engine.pollOutcome_eq_ok hn
      exact ⟨by rw [hready], by rw [hpolled.delivered, hready], hempty, hcalls⟩

/-- Two polls failed, one after it had read the counter away, while three buffers came back: the next poll
collects all three records at once. -/
theorem pile_drained : ∃ steps e e' m', OneEngine KernelStep.IsHonest steps ∧
    (Session.run steps (.boot .fresh)).engine = some e ∧ e.maxEvents = 3 ∧
    (Session.run steps (.boot .fresh)).machine.kernel.ready.length = 3 ∧
    e.poll (Session.run steps (.boot .fresh)).machine = (.ok 3, e', m') ∧
    e'.records.take e'.ready = (Session.run steps (.boot .fresh)).machine.kernel.ready ∧
    m'.kernel.ready = [] := by
  let steps : List Step := [.command (.createEquipped [⟨7, .read, 3, 4, 0⟩]), .command (.call .submit),
    .kernel (.complete ⟨0, 1⟩ [8] 1), .kernel (.fail .getEvents ⟨4⟩), .command (.call .poll),
    .kernel (.complete ⟨0, 0⟩ [] (-5)), .kernel (.shortRead 4), .command (.call .poll),
    .kernel (.complete ⟨0, 2⟩ [1, 2, 3] 3)]
  have h : OneEngine KernelStep.IsHonest steps := by decide
  have hpoll : (Session.run steps (.boot .fresh)).engine.map (fun e =>
      (e.maxEvents, (e.poll (Session.run steps (.boot .fresh)).machine).1)) = some (3, .ok 3) := by
    decide +kernel
  obtain ⟨e, he, hpoll⟩ := Option.map_eq_some_iff.1 hpoll
  obtain ⟨hmax, hok⟩ := Prod.mk.inj hpoll
  cases hp : e.poll (Session.run steps (.boot .fresh)).machine with
  | mk outcome x =>
  rw [hp] at hok
  subst hok
  obtain ⟨hn, hdelivered, hempty, -⟩ := (OneEngine.poll_drains h).2 e 3 x.1 x.2 he hp
  exact ⟨steps, e, x.1, x.2, h, he, hmax, hn.symm, hp, hdelivered, hempty⟩

end OneEngine

end Gadget
