import Gadget.Machine.Handle
/-!
# Sessions with bare handles

The kernel handles by themselves, without an engine around them: at most one of each, on one
machine. A new handle is created before the one it replaces is let go of, and if it cannot be
created the old one stays.
-/
namespace Gadget

/-- A call on a handle. -/
inductive HandleCall
  | openContext (maxEvents : UInt32)
  | closeContext
  /-- Submits an empty batch. -/
  | submitNothing
  /-- Collects records into a fresh array of `room` records. -/
  | collect (minimum room : Nat)
  | dropContext
  | openDoorbell
  | doorbellFile
  | wait
  | dropDoorbell
deriving DecidableEq, Repr

/-- What a call on a handle gives back. -/
inductive HandleAnswer
  | done
  | count (n : Nat)
  | records (count : Nat) (records : List Record)
  | file (file : Int32)
  | signals (n : UInt64)
deriving DecidableEq, Repr

/-- How a call on a handle fails. -/
inductive HandleRefusal
  /-- There is no such handle. -/
  | noHandle
  /-- The handle could not be created. -/
  | creation (e : TransferError)
  /-- The kernel refused. -/
  | kernel (e : Errno)
deriving DecidableEq, Repr

/-- A machine and the handles on it. -/
structure HandleSession (κ : Type) where
  context : Option IoContext
  doorbell : Option Doorbell
  machine : Machine κ

namespace HandleSession

variable {κ : Type} [Kernel κ]

/-- No handles, on a machine on which nothing has happened. -/
def boot (kernel : κ) : HandleSession κ := ⟨none, none, .boot kernel⟩

/-- Lets go of the I/O context, if there is one. -/
def dropContext (s : HandleSession κ) : HandleSession κ :=
  match s.context with
  | none => s
  | some h => { s with context := none, machine := h.drop s.machine }

/-- Lets go of the doorbell, if there is one. -/
def dropDoorbell (s : HandleSession κ) : HandleSession κ :=
  match s.doorbell with
  | none => s
  | some h => { s with doorbell := none, machine := h.drop s.machine }

/-- Lets go of everything, the I/O context first. -/
def drop (s : HandleSession κ) : HandleSession κ := s.dropContext.dropDoorbell

/-- What the kernel answered, as the outcome of a call. -/
def outcome {α : Type} (answer : α → HandleAnswer) :
    Except Errno α → Except HandleRefusal HandleAnswer
  | .ok a => .ok (answer a)
  | .error e => .error (.kernel e)

/-- Makes a call. -/
def perform (call : HandleCall) (s : HandleSession κ) :
    Except HandleRefusal HandleAnswer × HandleSession κ :=
  match call with
  | .openContext maxEvents =>
    match IoContext.create maxEvents s.machine with
    | (.error e, machine) => (.error (.creation e), { s with machine })
    | (.ok h, machine) => (.ok .done, { { s with machine }.dropContext with context := some h })
  | .openDoorbell =>
    match Doorbell.create s.machine with
    | (.error e, machine) => (.error (.creation e), { s with machine })
    | (.ok h, machine) => (.ok .done, { { s with machine }.dropDoorbell with doorbell := some h })
  | .dropContext => (.ok .done, s.dropContext)
  | .dropDoorbell => (.ok .done, s.dropDoorbell)
  | .closeContext =>
    match s.context with
    | none => (.error .noHandle, s)
    | some h =>
      let (result, h, machine) := h.close s.machine
      (outcome (fun _ => .done) result, { s with context := some h, machine })
  | .submitNothing =>
    match s.context with
    | none => (.error .noHandle, s)
    | some h =>
      let (result, machine) := h.submit [] s.machine
      (outcome .count result, { s with machine })
  | .collect minimum room =>
    match s.context with
    | none => (.error .noHandle, s)
    | some h =>
      let (result, records, machine) := h.collect minimum (List.replicate room .zero) s.machine
      (outcome (.records · records) result, { s with machine })
  | .doorbellFile =>
    match s.doorbell with
    | none => (.error .noHandle, s)
    | some h => (.ok (.file h.file), s)
  | .wait =>
    match s.doorbell with
    | none => (.error .noHandle, s)
    | some h =>
      let (result, machine) := h.wait s.machine
      (outcome .signals result, { s with machine })

end HandleSession

end Gadget
