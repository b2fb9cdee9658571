import Gadget.Proofs.Course
import Gadget.Proofs.Regions
import Mathlib.Data.List.Induction
/-!
# Runs beside a simulated kernel

`Session.run` takes any steps in any order. A `SingleEngine` run makes one engine and keeps it, and
its kernel steps are of a given kind: those of an honest kernel, say (`KernelStep.IsHonest`). Such a
run is the course of its engine beside a simulated kernel (`SingleEngine.course`), so the laws of courses
hold in it. A `OneEngine` run may let go of the engine as well, and is its course until then
(`OneEngine.stages`).
-/
namespace Gadget

/-! ## Kinds of kernel steps -/

namespace KernelStep

/-- Every count is true, and records are made up only for endpoints from `count` on. Calls may fail,
batches may be taken in part and reads may be short all the same. -/
def IsTruthful (count : Nat) : KernelStep → Prop
  | .reportSubmit _ | .reportEvents _ => False
  | .inject tag _ => count ≤ (Slot.ofTag tag).endpoint.toNat
  | _ => True

/-- Every count is true, and no records are made up. -/
def IsHonest : KernelStep → Prop
  | .reportSubmit _ | .reportEvents _ | .inject _ _ => False
  | _ => True

/-- As an honest kernel does, and a read that is cut short is shorter than eight bytes. -/
def IsGenuine : KernelStep → Prop
  | .reportSubmit _ | .reportEvents _ | .inject _ _ => False
  | .shortRead length => length < 8
  | _ => True

instance (count : Nat) : DecidablePred (IsTruthful count) := fun step => by
  cases step <;> unfold IsTruthful <;> infer_instance

instance : DecidablePred IsHonest := fun step => by
  cases step <;> unfold IsHonest <;> infer_instance

instance : DecidablePred IsGenuine := fun step => by
  cases step <;> unfold IsGenuine <;> infer_instance

theorem IsHonest.isTruthful {step : KernelStep} (h : step.IsHonest) (count : Nat) :
    step.IsTruthful count := by
  cases step <;> trivial

theorem IsGenuine.isHonest {step : KernelStep} (h : step.IsGenuine) : step.IsHonest := by
  cases step <;> trivial

end KernelStep

/-! ## What kernel steps leave alone -/

namespace Machine

theorem Drift.refl {κ : Type} (m : Machine κ) : m.Drift m := ⟨rfl, rfl⟩

theorem overwrite_drift {κ : Type} (region start : Nat) (bytes : List UInt8) (m : Machine κ) :
    m.Drift (m.overwrite region start bytes) :=
  ⟨Memory.shape_overwrite region start bytes m.memory, rfl⟩

theorem transferInto_drift (owner : Option UInt64) (o : Operation) (bytes : List UInt8)
    (m : Machine SimulatedKernel) : m.Drift (m.transferInto owner o bytes) := by
  unfold transferInto
  split
  · split
    · exact overwrite_drift _ _ _ m
    · exact .refl m
  · exact .refl m

theorem kernelStep_drift (owner : Option UInt64) (step : KernelStep) (m : Machine SimulatedKernel) :
    m.Drift (m.kernelStep owner step).2 := by
  cases step with
  | complete slot bytes result =>
    simp only [kernelStep, complete]
    split
    · exact .refl m
    · split
      · exact .refl m
      · have h := fun o => transferInto_drift owner o bytes m
        exact ⟨(h _).shape, (h _).calls⟩
  | _ => exact ⟨rfl, rfl⟩

end Machine

theorem Ledger.noteKernel_eq (owner : Option UInt64) (step : KernelStep)
    (m : Machine SimulatedKernel) (l : Ledger) :
    (l.noteKernel owner step m).plans = l.plans ∧ (l.noteKernel owner step m).armed = l.armed ∧
      (l.noteKernel owner step m).delivered = l.delivered := by
  cases step with
  | complete slot bytes result =>
    simp only [noteKernel]
    split <;> exact ⟨rfl, rfl, rfl⟩
  | _ => exact ⟨rfl, rfl, rfl⟩

/-! ## The simulated kernel as an environment -/

/-- The machines on which there was no engine yet. -/
inductive Prepared (allowed : KernelStep → Prop) : Machine SimulatedKernel → Prop
  | boot : Prepared allowed (.boot .fresh)
  | step {m : Machine SimulatedKernel} {k : KernelStep} (h : Prepared allowed m) (hk : allowed k) :
    Prepared allowed (m.kernelStep none k).2

theorem Prepared.blank {allowed : KernelStep → Prop} {m : Machine SimulatedKernel}
    (h : Prepared allowed m) : m.calls = [] ∧ m.memory.cells = [] := by
  induction h with
  | boot => exact ⟨rfl, rfl⟩
  | @step m k h hk ih =>
    have hd := Machine.kernelStep_drift none k m
    refine ⟨by rw [hd.calls, ih.1], ?_⟩
    have hshape := hd.shape
    rwa [ih.2, List.map_nil, List.map_eq_nil_iff] at hshape

/-- A simulated kernel that takes steps of one kind. -/
def Environment.simulated (allowed : KernelStep → Prop) : Environment SimulatedKernel where
  start := Prepared allowed
  world l e m l' m' := ∃ k, allowed k ∧ l' = l.noteKernel (some e.context.id) k m ∧
    m' = (m.kernelStep (some e.context.id) k).2
  blank _ h := h.blank
  drift := by
    rintro l e m l' m' ⟨k, -, rfl, rfl⟩
    exact ⟨Machine.kernelStep_drift _ k m, l.noteKernel_eq _ k m⟩

theorem Prepared.mono {allowed allowed' : KernelStep → Prop} (himp : ∀ k, allowed k → allowed' k)
    {m : Machine SimulatedKernel} (h : Prepared allowed m) : Prepared allowed' m := by
  induction h with
  | boot => exact .boot
  | step h hk ih => exact ih.step (himp _ hk)

/-- A kernel that may do more has every run of one that may do less. -/
theorem Engine.Course.mono {allowed allowed' : KernelStep → Prop} (himp : ∀ k, allowed k → allowed' k)
    {l : Ledger} {e : Engine} {m : Machine SimulatedKernel}
    (h : Engine.Course (.simulated allowed) l e m) : Engine.Course (.simulated allowed') l e m := by
  induction h with
  | created hs h => exact .created (hs.mono himp) h
  | called call h ih => exact .called call ih
  | passed h hw ih =>
    obtain ⟨k, hk, hl, hm⟩ := hw
    exact .passed ih ⟨k, himp k hk, hl, hm⟩

/-! ## Watching a run -/

/-- A session with the ledger of its engine. -/
structure Watched where
  session : Session SimulatedKernel
  ledger : Ledger

namespace Watched

/-- What a step adds to the ledger. Another engine starts another ledger. -/
def note (w : Watched) : Step → Ledger
  | .command (.create _ _) | .command .drop => .empty
  | .command (.createEquipped plans) => Ledger.empty.noteEquipAll 0 plans
  | .command (.call call) =>
    match w.session.engine with
    | some e => w.ledger.noteCall call e w.session.machine
    | none => w.ledger
  | .kernel k => w.ledger.noteKernel w.session.owner k w.session.machine

/-- One step of a run. -/
def step (w : Watched) (s : Step) : Watched := ⟨w.session.step s, w.note s⟩

/-- A run from a fresh kernel on. -/
def run (steps : List Step) : Watched := steps.foldl step ⟨.boot .fresh, .empty⟩

theorem run_append_singleton (steps : List Step) (s : Step) : run (steps ++ [s]) = (run steps).step s := by
  rw [run, run, List.foldl_append]; rfl

/-- Watching changes nothing. -/
theorem session_run (steps : List Step) : (run steps).session = Session.run steps (.boot .fresh) := by
  induction steps using List.reverseRecOn with
  | nil => rfl
  | append_singleton steps s ih =>
    rw [run_append_singleton, Session.run, List.foldl_append]
    exact congrArg (Session.step · s) ih

end Watched

/-! ## Runs of one engine -/

/-- Whether a step asks for a new engine. -/
def Step.creates : Step → Bool
  | .command (.create _ _) | .command (.createEquipped _) => true
  | _ => false

/-- The run asks for one engine at most and keeps it, and the kernel does only what is allowed. -/
structure SingleEngine (allowed : KernelStep → Prop) (steps : List Step) : Prop where
  creations : steps.countP Step.creates ≤ 1
  kept : .command .drop ∉ steps
  kernel : ∀ k, .kernel k ∈ steps → allowed k

/-- Whether a step of the kernel is an allowed one; those of the program all are. -/
def Step.isAllowed (allowed : KernelStep → Prop) [DecidablePred allowed] : Step → Bool
  | .kernel k => allowed k
  | .command _ => true

/-- The run asks for one engine at most, and the kernel does only what is allowed. The program may let go of
the engine. -/
structure OneEngine (allowed : KernelStep → Prop) (steps : List Step) : Prop where
  creations : steps.countP Step.creates ≤ 1
  kernel : ∀ k, .kernel k ∈ steps → allowed k

theorem SingleEngine.oneEngine {allowed : KernelStep → Prop} {steps : List Step}
    (h : SingleEngine allowed steps) : OneEngine allowed steps := ⟨h.creations, h.kernel⟩

theorem OneEngine.of_append {allowed : KernelStep → Prop} {steps : List Step} {s : Step}
    (h : OneEngine allowed (steps ++ [s])) : OneEngine allowed steps where
  creations := by
    have := h.creations
    rw [List.countP_append] at this; omega
  kernel k hm := h.kernel k (List.mem_append_left _ hm)

instance (allowed : KernelStep → Prop) [DecidablePred allowed] (steps : List Step) :
    Decidable (OneEngine allowed steps) :=
  decidable_of_iff (steps.countP Step.creates ≤ 1 ∧ ∀ s ∈ steps, s.isAllowed allowed) <| by
    refine ⟨fun ⟨hc, hk⟩ => ⟨hc, fun k hm => by simpa [Step.isAllowed] using hk _ hm⟩,
      fun ⟨hc, hk⟩ => ⟨hc, ?_⟩⟩
    intro s hm
    cases s with
    | kernel k => simpa [Step.isAllowed] using hk k hm
    | command c => rfl

instance (allowed : KernelStep → Prop) [DecidablePred allowed] (steps : List Step) :
    Decidable (SingleEngine allowed steps) :=
  decidable_of_iff (OneEngine allowed steps ∧ .command .drop ∉ steps)
    ⟨fun ⟨h, hd⟩ => ⟨h.creations, hd, h.kernel⟩, fun h => ⟨h.oneEngine, h.kept⟩⟩

variable {allowed : KernelStep → Prop} {w : Watched} {s : Step}

/-- A creation starts a course or leaves no engine. -/
theorem course_of_creates (hs : s.creates) (he : w.session.engine = none)
    (hp : Prepared allowed w.session.machine) (e : Engine) (h : (w.step s).session.engine = some e) :
    Engine.Course (.simulated allowed) (w.step s).ledger e (w.step s).session.machine := by
  obtain ⟨⟨engine, machine⟩, ledger⟩ := w
  cases he
  cases s with
  | kernel k => cases hs
  | command c =>
    cases c with
    | drop => cases hs
    | call call => cases hs
    | create endpointCount maxEvents =>
      simp only [Watched.step, Watched.note, Session.step, Session.perform, Session.dropEngine] at h ⊢
      cases hc : Engine.create endpointCount maxEvents machine with
      | mk outcome m =>
        cases outcome with
        | error err => simp [hc] at h
        | ok e₀ =>
          simp only [hc, Option.some.injEq] at h ⊢
          exact h ▸ .created hp hc
    | createEquipped plans =>
      simp only [Watched.step, Watched.note, Session.step, Session.perform, Session.dropEngine] at h ⊢
      cases hc : Engine.createEquipped plans machine with
      | mk outcome m =>
        cases outcome with
        | error err => simp [hc] at h
        | ok e₀ =>
          simp only [hc, Option.some.injEq] at h ⊢
          exact h ▸ .createdEquipped hp hc

/-- Any other step that is not the end of the engine takes a course one step further. -/
theorem course_of_step (hs : ¬ s.creates) (hd : s ≠ .command .drop) (hk : ∀ k, s = .kernel k → allowed k)
    {e₀ : Engine} (he : w.session.engine = some e₀)
    (hw : Engine.Course (.simulated allowed) w.ledger e₀ w.session.machine) :
    ∃ e, (w.step s).session.engine = some e ∧
      Engine.Course (.simulated allowed) (w.step s).ledger e (w.step s).session.machine := by
  obtain ⟨⟨engine, machine⟩, ledger⟩ := w
  cases he
  cases s with
  | kernel k => exact ⟨e₀, rfl, .passed hw ⟨k, hk k rfl, rfl, rfl⟩⟩
  | command c =>
    cases c with
    | drop => exact absurd rfl hd
    | call call => exact ⟨_, rfl, .called call hw⟩
    | create endpointCount maxEvents => exact absurd rfl hs
    | createEquipped plans => exact absurd rfl hs

/-- Without an engine, and without a request for one, only kernel steps change the machine. -/
theorem prepared_of_step (hs : ¬ s.creates) (hk : ∀ k, s = .kernel k → allowed k)
    (he : w.session.engine = none) :
    (w.step s).session.engine = none ∧
      (Prepared allowed w.session.machine → Prepared allowed (w.step s).session.machine) := by
  obtain ⟨⟨engine, machine⟩, ledger⟩ := w
  cases he
  cases s with
  | kernel k => exact ⟨rfl, fun hp => hp.step (hk k rfl)⟩
  | command c =>
    cases c with
    | drop => exact ⟨rfl, id⟩
    | call call => exact ⟨rfl, id⟩
    | create endpointCount maxEvents => exact absurd rfl hs
    | createEquipped plans => exact absurd rfl hs

/-- The three stages of a run of one engine: before the request for it, without it after the request, and
with it. -/
theorem OneEngine.stages {steps : List Step} (h : OneEngine allowed steps) :
    (steps.countP Step.creates = 0 ∧ (Watched.run steps).session.engine = none ∧
      Prepared allowed (Watched.run steps).session.machine) ∨
    (steps.countP Step.creates = 1 ∧ (Watched.run steps).session.engine = none) ∨
    (steps.countP Step.creates = 1 ∧ ∃ e, (Watched.run steps).session.engine = some e ∧
      Engine.Course (.simulated allowed) (Watched.run steps).ledger e
        (Watched.run steps).session.machine) := by
  induction steps using List.reverseRecOn with
  | nil => exact .inl ⟨rfl, rfl, .boot⟩
  | append_singleton steps s ih =>
    have ih := ih h.of_append
    have hone := h.creations
    have hk : ∀ k, s = .kernel k → allowed k := fun k he => h.kernel k (he ▸ by simp)
    rw [Watched.run_append_singleton]
    simp only [List.countP_append, List.countP_singleton] at hone ⊢
    by_cases hs : s.creates
    · rw [if_pos hs] at hone ⊢
      rcases ih with ⟨hz, he, hp⟩ | ⟨hz, -⟩ | ⟨hz, -⟩
      · rw [hz]
        cases hnew : ((Watched.run steps).step s).session.engine with
        | none => exact .inr (.inl ⟨rfl, rfl⟩)
        | some e => exact .inr (.inr ⟨rfl, e, rfl, course_of_creates hs he hp e hnew⟩)
      · omega
      · omega
    · rw [if_neg hs, Nat.add_zero]
      rcases ih with ⟨hz, he, hp⟩ | ⟨hz, he⟩ | ⟨hz, e, he, hw⟩
      · obtain ⟨hn, hp'⟩ := prepared_of_step hs hk he
        exact .inl ⟨hz, hn, hp' hp⟩
      · exact .inr (.inl ⟨hz, (prepared_of_step hs hk he).1⟩)
      · by_cases hd : s = .command .drop
        · subst hd
          refine .inr (.inl ⟨hz, ?_⟩)
          simp only [Watched.step, Session.step, Session.perform, Session.dropEngine, he]
        · exact .inr (.inr ⟨hz, course_of_step hs hd hk he hw⟩)

/-- As long as there is the engine, the run is a course of it. -/
theorem OneEngine.course {steps : List Step} (h : OneEngine allowed steps) {e : Engine}
    (he : (Watched.run steps).session.engine = some e) :
    Engine.Course (.simulated allowed) (Watched.run steps).ledger e
      (Watched.run steps).session.machine := by
  rcases h.stages with ⟨-, hn, -⟩ | ⟨-, hn⟩ | ⟨-, e', he', hw⟩
  · rw [he] at hn; cases hn
  · rw [he] at hn; cases hn
  · rw [he] at he'
    cases he'
    exact hw

/-- **A run of one engine is a course** of that engine. -/
theorem SingleEngine.course {steps : List Step} (h : SingleEngine allowed steps) {e : Engine}
    (he : (Watched.run steps).session.engine = some e) :
    Engine.Course (.simulated allowed) (Watched.run steps).ledger e
      (Watched.run steps).session.machine :=
  h.oneEngine.course he

/-- Four buffers on their way: the first comes back and is collected, the second comes back, the third
stays with the kernel, and the fourth was not taken. -/
def mixedRun : List Step :=
  [.command (.createEquipped [⟨7, .read, 4, 2, 1⟩]), .kernel (.limitSubmit 3),
    .command (.call .submit), .kernel (.complete ⟨0, 0⟩ [9] 1), .command (.call .poll),
    .kernel (.complete ⟨0, 1⟩ [] (-5))]

end Gadget
