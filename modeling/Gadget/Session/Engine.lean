import Gadget.Engine.Access
import Gadget.Engine.Poll
import Gadget.Engine.Release
import Gadget.Engine.Submit
import Gadget.Simulation.Step
/-!
# Sessions with an engine

A session is a machine with at most one engine on it. Every call that a program can make is a
`Command`, so that a program is a list of commands, and a run beside a simulated kernel is a list
of `Step`s in which commands and kernel steps alternate as they like.
-/
namespace Gadget

/-- A call on an engine. -/
inductive EngineCall
  | equip (index : Nat) (plan : EndpointPlan)
  | submit
  | poll
  | inspect (index : Nat)
  | delivered
  | write (slot : Slot) (start : Nat) (bytes : List UInt8)
  | writeAt (index start : Nat) (bytes : List UInt8)
  | rearm (slot : Slot) (direction : Direction)
  | rearmAt (index : Nat) (direction : Direction)
  /-- The numbers of endpoints and operations, and the file to wait for. -/
  | size
  | endpoint (index : Nat)
  | phase (slot : Slot)
deriving DecidableEq, Repr

/-- A call that a program makes. -/
inductive Command
  | create (endpoints maxEvents : Nat)
  | createEquipped (plans : List EndpointPlan)
  | drop
  | call (c : EngineCall)
deriving DecidableEq, Repr

/-- What a call gives back. -/
inductive Answer
  | done
  | count (n : Nat)
  | completion (c : Completion)
  | delivered (cs : List (Except TransferError Completion))
  | size (endpoints maxEvents : Nat) (doorbell : Int32)
  | endpoint (equipped : Bool) (direction : Option Direction)
  | phase (phase : Option Phase)
deriving Repr

/-- How a command ends without an answer. -/
inductive Refusal
  /-- There is no engine to call. -/
  | noEngine
  /-- The call failed. -/
  | fault (f : Fault)
deriving DecidableEq, Repr

namespace Refusal

/-- The outcome of a call that may fail. -/
def ofFault {α : Type} (answer : α → Answer) : Except Fault α → Except Refusal Answer
  | .ok a => .ok (answer a)
  | .error f => .error (.fault f)

/-- The outcome of a call that may fail and has no internal assertions. -/
def ofError {α : Type} (answer : α → Answer) : Except TransferError α → Except Refusal Answer
  | .ok a => .ok (answer a)
  | .error e => .error (.fault (.error e))

end Refusal

variable {κ : Type} [Kernel κ]

/-- Makes a call on an engine. -/
def Engine.perform (call : EngineCall) (e : Engine) (m : Machine κ) :
    Except Refusal Answer × Engine × Machine κ :=
  match call with
  | .equip index plan =>
    let (result, e, m) := e.equip index plan m
    (Refusal.ofFault (fun _ => .done) result, e, m)
  | .submit =>
    let (result, e, m) := e.submit m
    (Refusal.ofFault .count result, e, m)
  | .poll =>
    let (result, e, m) := e.poll m
    (Refusal.ofFault .count result, e, m)
  | .inspect index => (Refusal.ofError .completion (e.inspect index m), e, m)
  | .delivered => (.ok (.delivered (e.delivered m)), e, m)
  | .write slot start bytes =>
    let (result, m) := e.write slot start bytes m
    (Refusal.ofFault .count result, e, m)
  | .writeAt index start bytes =>
    let (result, m) := e.writeAt index start bytes m
    (Refusal.ofFault .count result, e, m)
  | .rearm slot direction =>
    let (result, e, m) := e.rearm slot direction m
    (Refusal.ofError (fun _ => .done) result, e, m)
  | .rearmAt index direction =>
    let (result, e, m) := e.rearmAt index direction m
    (Refusal.ofError (fun _ => .done) result, e, m)
  | .size => (.ok (.size e.endpointCount e.maxEvents e.doorbell.file), e, m)
  | .endpoint index => (.ok (.endpoint (e.isEquipped index) (e.direction? index)), e, m)
  | .phase slot => (.ok (.phase (e.phase? slot)), e, m)

/-! ## Sessions -/

/-- A machine and the engine on it. -/
structure Session (κ : Type) where
  engine : Option Engine
  machine : Machine κ

namespace Session

/-- A session on a machine on which nothing has happened. -/
def boot (kernel : κ) : Session κ := ⟨none, .boot kernel⟩

/-- The I/O context of the engine that now exists. -/
def owner (s : Session κ) : Option UInt64 := s.engine.map (·.context.id)

/-- Lets go of the engine, if there is one. -/
def dropEngine (s : Session κ) : Session κ :=
  match s.engine with
  | none => s
  | some e => ⟨none, e.drop s.machine⟩

/-- Makes a call. An engine that is in the way of a new one is let go of first. -/
def perform (command : Command) (s : Session κ) : Except Refusal Answer × Session κ :=
  match command with
  | .create endpoints maxEvents =>
    match Engine.create endpoints maxEvents s.dropEngine.machine with
    | (.ok e, m) => (.ok .done, ⟨some e, m⟩)
    | (.error err, m) => (.error (.fault (.error err)), ⟨none, m⟩)
  | .createEquipped plans =>
    match Engine.createEquipped plans s.dropEngine.machine with
    | (.ok e, m) => (.ok .done, ⟨some e, m⟩)
    | (.error f, m) => (.error (.fault f), ⟨none, m⟩)
  | .drop => (.ok .done, s.dropEngine)
  | .call call =>
    match s.engine with
    | none => (.error .noEngine, s)
    | some e =>
      let (result, e, m) := e.perform call s.machine
      (result, ⟨some e, m⟩)

end Session

/-! ## Runs beside a simulated kernel -/

/-- A step of a run: the program makes a call, or the kernel does something by itself. -/
inductive Step
  | command (c : Command)
  | kernel (k : KernelStep)
deriving DecidableEq, Repr

namespace Session

/-- A step of the kernel. -/
def kernelStep (k : KernelStep) (s : Session SimulatedKernel) :
    Except StepRefusal Unit × Session SimulatedKernel :=
  let (result, machine) := s.machine.kernelStep s.owner k
  (result, { s with machine })

/-- One step of a run. -/
def step (s : Session SimulatedKernel) : Step → Session SimulatedKernel
  | .command c => (s.perform c).2
  | .kernel k => (s.kernelStep k).2

/-- A run: one step after another. -/
def run (steps : List Step) (s : Session SimulatedKernel) : Session SimulatedKernel :=
  steps.foldl step s

end Session

end Gadget
