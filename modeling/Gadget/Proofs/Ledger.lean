import Gadget.Proofs.Equipping
import Gadget.Session.Engine
/-!
# What happened to an engine

An engine forgets: a descriptor is overwritten by the next one, a completion by the next poll. A
`Ledger` is kept beside a run and remembers what the laws of whole runs are about: the plans of the
endpoints, every arming with what the buffer held at that moment, every operation that the kernel
completed, and every completion that a poll delivered. Nothing in the engine reads it. What the
kernel accepted is in the machine's own list of calls (`Machine.accepted`).
-/
namespace Gadget

variable {κ : Type}

/-! ## Accepted descriptors -/

/-- The descriptors that a call handed over: the reported prefix of a submitted batch. -/
def Call.accepted : Call → List Descriptor
  | .submit _ batch (.ok count) => batch.take count
  | _ => []

/-- The descriptors that the kernel accepted, oldest first. -/
def Machine.accepted (m : Machine κ) : List Descriptor := m.calls.flatMap Call.accepted

/-! ## The ledger -/

/-- One arming of a buffer. -/
structure Arming where
  slot : Slot
  direction : Direction
  /-- What the buffer held. -/
  contents : List UInt8
deriving DecidableEq, Repr

/-- An operation that the kernel completed. -/
structure Outcome where
  slot : Slot
  result : Int64
  /-- What the kernel transferred. -/
  bytes : List UInt8
  /-- What the buffer held when the operation was armed. -/
  staged : List UInt8
deriving DecidableEq, Repr

/-- What happened to an engine. -/
structure Ledger where
  /-- How endpoints were equipped, the latest first. -/
  plans : List (Nat × EndpointPlan)
  armed : List Arming
  completed : List Outcome
  delivered : List (Except TransferError Completion)

/-- The armings that come with a new endpoint: all its buffers in order, all of them zeros. -/
def EndpointPlan.armings (index : Nat) (plan : EndpointPlan) : List Arming :=
  (plan.slots (.ofNat index)).map (⟨·, plan.direction, List.replicate plan.size 0⟩)

/-- The bytes of the buffer in a slot. -/
def Engine.bytesAt (slot : Slot) (e : Engine) (m : Machine κ) : List UInt8 :=
  match e.endpoints.find? slot with
  | some (_, b) => b.bytes m.memory
  | none => []

theorem Engine.bytesAt_of_find? {slot : Slot} {e : Engine} {m : Machine κ} {file : Int32} {b : Buffer}
    (h : e.endpoints.find? slot = some (file, b)) : e.bytesAt slot m = b.bytes m.memory := by
  simp [bytesAt, h]

namespace Ledger

/-- Nothing happened yet. -/
def empty : Ledger := ⟨[], [], [], []⟩

/-- The plan of a slot's endpoint. -/
def plan? (slot : Slot) (l : Ledger) : Option EndpointPlan := l.plans.lookup slot.endpoint.toNat

/-- What the buffer in a slot held when it was last armed. -/
def staged (slot : Slot) (l : Ledger) : List UInt8 :=
  match l.armed.reverse.find? (·.slot = slot) with
  | some a => a.contents
  | none => []

/-! ## Keeping it -/

/-- An endpoint was equipped. -/
def noteEquip (index : Nat) (plan : EndpointPlan) (l : Ledger) : Ledger :=
  { l with plans := (index, plan) :: l.plans, armed := l.armed ++ plan.armings index }

/-- Endpoints were equipped one after another from the given index on. -/
def noteEquipAll : Nat → List EndpointPlan → Ledger → Ledger
  | _, [], l => l
  | index, plan :: plans, l => noteEquipAll (index + 1) plans (l.noteEquip index plan)

/-- A buffer that held `contents` was armed. -/
def noteArm (slot : Slot) (direction : Direction) (contents : List UInt8) (l : Ledger) : Ledger :=
  { l with armed := l.armed ++ [⟨slot, direction, contents⟩] }

/-- A poll delivered completions. -/
def noteDelivered (cs : List (Except TransferError Completion)) (l : Ledger) : Ledger :=
  { l with delivered := l.delivered ++ cs }

/-- The kernel completed an operation. -/
def noteCompleted (slot : Slot) (bytes : List UInt8) (result : Int64) (l : Ledger) : Ledger :=
  { l with completed := l.completed ++ [⟨slot, result, bytes, l.staged slot⟩] }

/-- What a call adds. Only calls that succeed add anything, and what a poll delivers is what can be
inspected right after it. -/
def noteCall [Kernel κ] (call : EngineCall) (e : Engine) (m : Machine κ) (l : Ledger) : Ledger :=
  match call with
  | .equip index plan =>
    match e.equip index plan m with
    | (.ok (), _) => l.noteEquip index plan
    | _ => l
  | .poll =>
    match e.poll m with
    | (.ok n, e', m') => l.noteDelivered ((List.range n).map fun index => e'.inspect index m')
    | _ => l
  | .rearm slot direction =>
    match e.rearm slot direction m with
    | (.ok (), _) => l.noteArm slot direction (e.bytesAt slot m)
    | _ => l
  | .rearmAt index direction =>
    match e.completed index with
    | .ok r =>
      match e.rearmAt index direction m with
      | (.ok (), _) => l.noteArm r.slot direction (e.bytesAt r.slot m)
      | _ => l
    | .error _ => l
  | _ => l

/-- What a step of a simulated kernel adds, which is an operation if it completes one. -/
def noteKernel (owner : Option UInt64) (step : KernelStep) (m : Machine SimulatedKernel)
    (l : Ledger) : Ledger :=
  match step with
  | .complete slot bytes result =>
    match m.complete owner slot bytes result with
    | (.ok (), _) => l.noteCompleted slot bytes result
    | _ => l
  | _ => l

/-! ## Looking things up in it -/

theorem plan?_noteEquip {index : Nat} {plan : EndpointPlan} (s : Slot) (l : Ledger) :
    (l.noteEquip index plan).plan? s = if s.endpoint.toNat = index then some plan else l.plan? s := by
  simp only [plan?, noteEquip, List.lookup_cons]
  split
  · rename_i h; rw [if_pos (by simpa using h)]
  · rename_i h; rw [if_neg (by simpa using h)]

theorem staged_noteArm {slot : Slot} {direction : Direction} {contents : List UInt8} (s : Slot)
    (l : Ledger) :
    (l.noteArm slot direction contents).staged s = if s = slot then contents else l.staged s := by
  simp only [staged, noteArm, List.reverse_append, List.reverse_singleton, List.singleton_append,
    List.find?_cons]
  by_cases h : s = slot
  · simp [h]
  · rw [if_neg h]; simp [Ne.symm h]

theorem staged_noteEquip {index : Nat} {plan : EndpointPlan} (s : Slot) (l : Ledger) :
    (l.noteEquip index plan).staged s =
      if s ∈ plan.slots (.ofNat index) then List.replicate plan.size 0 else l.staged s := by
  simp only [staged, noteEquip, List.reverse_append, List.find?_append]
  by_cases h : s ∈ plan.slots (.ofNat index)
  · obtain ⟨a, ha⟩ : ∃ a, (plan.armings index).reverse.find? (·.slot = s) = some a := by
      rw [← Option.isSome_iff_exists, List.find?_isSome]
      exact ⟨_, List.mem_reverse.2 (List.mem_map_of_mem h), by simp⟩
    obtain ⟨s', -, rfl⟩ := List.mem_map.1 (List.mem_reverse.1 (List.mem_of_find?_eq_some ha))
    rw [ha, if_pos h]; rfl
  · have hnone : (plan.armings index).reverse.find? (·.slot = s) = none := by
      rw [List.find?_eq_none]
      intro a ha
      obtain ⟨s', hs', rfl⟩ := List.mem_map.1 (List.mem_reverse.1 ha)
      simp only [decide_eq_true_eq]
      exact fun he => h (he ▸ hs')
    rw [hnone, if_neg h]; rfl

end Ledger

end Gadget
