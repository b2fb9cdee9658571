import Gadget.Proofs.WakeUp
/-!
# Going on with a run

From any state of a run the program can make further calls, between which the kernel does as it likes
(`Interleaved`). The longer run is again one of the same engine (`SingleEngine.append`), so whatever holds
in all runs holds all the way, among it that the kernel still knows the I/O context
(`Engine.Course.context_alive`).
-/
namespace Gadget

/-! ## Calls and kernel steps -/

/-- Steps that are the given calls, in this order, with allowed steps of the kernel anywhere between. -/
inductive Interleaved (allowed : KernelStep → Prop) : List EngineCall → List Step → Prop
  | nil : Interleaved allowed [] []
  | call {calls : List EngineCall} {steps : List Step} (call : EngineCall)
    (h : Interleaved allowed calls steps) :
    Interleaved allowed (call :: calls) (.command (.call call) :: steps)
  | kernel {calls : List EngineCall} {steps : List Step} {k : KernelStep} (hk : allowed k)
    (h : Interleaved allowed calls steps) : Interleaved allowed calls (.kernel k :: steps)

namespace Session

/-- What the calls of a run answer, in order. -/
def answers : List Step → Session SimulatedKernel → List (Except Refusal Answer)
  | [], _ => []
  | .command c :: steps, s => (s.perform c).1 :: answers steps (s.perform c).2
  | .kernel k :: steps, s => answers steps (s.kernelStep k).2

theorem run_cons (step : Step) (steps : List Step) (s : Session SimulatedKernel) :
    run (step :: steps) s = run steps (s.step step) := rfl

theorem run_append (steps more : List Step) (s : Session SimulatedKernel) :
    run (steps ++ more) s = run more (run steps s) := by
  rw [run, run, run, List.foldl_append]

end Session

section

variable {allowed : KernelStep → Prop} {steps more : List Step} {calls : List EngineCall} {e : Engine}
  {m : Machine SimulatedKernel}

theorem Interleaved.countP_creates (h : Interleaved allowed calls more) :
    more.countP Step.creates = 0 := by
  induction h with
  | nil => rfl
  | call call h ih => rw [List.countP_cons_of_neg (by simp [Step.creates]), ih]
  | kernel hk h ih => rw [List.countP_cons_of_neg (by simp [Step.creates]), ih]

theorem Interleaved.drop_not_mem (h : Interleaved allowed calls more) : .command .drop ∉ more := by
  induction h with
  | nil => simp
  | call call h ih => simpa using ih
  | kernel hk h ih => simpa using ih

theorem Interleaved.allowed_of_mem (h : Interleaved allowed calls more) {k : KernelStep}
    (hm : .kernel k ∈ more) : allowed k := by
  induction h with
  | nil => cases hm
  | call call h ih => exact ih (by simpa using hm)
  | kernel hk h ih =>
    rcases List.mem_cons.1 hm with heq | hm
    · cases heq
      exact hk
    · exact ih hm

/-- Calls on the engine keep a run one of a single engine. -/
theorem SingleEngine.append (h : SingleEngine allowed steps) (hi : Interleaved allowed calls more) :
    SingleEngine allowed (steps ++ more) := by
  constructor
  · rw [List.countP_append, hi.countP_creates]
    exact h.creations
  · intro hm
    rcases List.mem_append.1 hm with hm | hm
    · exact h.kept hm
    · exact hi.drop_not_mem hm
  · intro k hm
    rcases List.mem_append.1 hm with hm | hm
    · exact h.kernel k hm
    · exact hi.allowed_of_mem hm

/-- A run that leads to an engine is a course of it. -/
theorem SingleEngine.exists_course (h : SingleEngine allowed steps)
    (he : Session.run steps (.boot .fresh) = ⟨some e, m⟩) :
    ∃ l, Engine.Course (.simulated allowed) l e m := by
  rw [← Watched.session_run] at he
  have hc := h.course (e := e) (by rw [he])
  rw [he] at hc
  exact ⟨_, hc⟩

end

/-! ## The I/O context stays -/

theorem SimulatedKernel.read_contexts {k k' : SimulatedKernel} {file : Int32}
    {outcome : Except Errno (Nat × UInt64)} (h : Kernel.read file k = (outcome, k')) :
    k'.contexts = k.contexts := by
  rcases read_cases h with ⟨errno, -, hk⟩ | ⟨length, -, -, hk⟩ | ⟨-, -, hk, -⟩
  · exact hk.contexts
  · exact hk.contexts
  · exact hk.contexts

theorem Machine.kernelStep_contexts (owner : Option UInt64) (step : KernelStep)
    (m : Machine SimulatedKernel) : (m.kernelStep owner step).2.kernel.contexts = m.kernel.contexts := by
  cases step with
  | complete slot bytes result =>
    rcases complete_cases owner slot bytes result m with ⟨err, hc⟩ | ⟨o, before, after, -, -, -, hc⟩ <;>
      rw [kernelStep, hc]
    rfl
  | _ => rfl

namespace Engine

variable {l l' : Ledger} {e e' : Engine} {m m' : Machine SimulatedKernel}

/-- No call of an engine opens or closes an I/O context. -/
theorem Effect.contexts_eq (h : Effect l e m l' e' m') : m'.kernel.contexts = m.kernel.contexts := by
  cases h with
  | nothing => rfl
  | allocationFailed hg => rw [hg.kernel]
  | equipped hq => rw [hq.machine.kernel]
  | wrote hf hp => rfl
  | rearmed hr => rw [hr.machine]; rfl
  | submitFailed hf => exact (SimulatedKernel.submit_silent hf.kernel).contexts
  | submitted hsub => exact (SimulatedKernel.submit_silent hsub.kernel).contexts
  | pollFailed hp =>
    rcases hp.kernel with ⟨hread, -⟩ | ⟨_, _, hread, -⟩ | ⟨_, k, hread, hget, -⟩
    · exact SimulatedKernel.read_contexts hread
    · exact SimulatedKernel.read_contexts hread
    · exact (SimulatedKernel.getEvents_steady hget).1.contexts.trans (SimulatedKernel.read_contexts hread)
  | polled hp =>
    obtain ⟨_, k, hread, hget, -⟩ := hp.kernel
    exact (SimulatedKernel.getEvents_steady hget).1.contexts.trans (SimulatedKernel.read_contexts hread)

/-- The kernel knows the I/O context of an engine throughout its run. -/
theorem Course.context_alive {allowed : KernelStep → Prop} (h : Course (.simulated allowed) l e m) :
    e.context.id ∈ m.kernel.contexts := by
  induction h with
  | created hs h =>
    obtain ⟨k, hsetup, heventfd⟩ := (create_eq_ok h).kernel
    rw [SimulatedKernel.eventfd_ok heventfd, SimulatedKernel.setup_ok hsetup]
    simp
  | @called l e m call h ih =>
    have heff := perform_effect h.sound call l m
    rw [heff.contexts_eq, heff.keeps.context]
    exact ih
  | passed h hw ih =>
    obtain ⟨k, -, -, rfl⟩ := hw
    rw [Machine.kernelStep_contexts]
    exact ih

end Engine
end Gadget
