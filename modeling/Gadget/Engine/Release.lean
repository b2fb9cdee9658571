import Gadget.Engine.Create
import Gadget.Engine.Equip
/-!
# Letting go of an engine: `Drop for Context`, `Context::with_endpoints`

The kernel gives up its claims first; only then is the doorbell closed and the memory given back.
If the kernel refuses while it owns buffers, the memory of all endpoints is leaked, since there is
no telling when the kernel will be done with it.

An engine that is created together with its endpoints is let go of again if one of them cannot be
equipped.
-/
namespace Gadget.Engine

variable {κ : Type} [Kernel κ]

/-- Takes the buffers back from the kernel (`Drop for Context`): whether the kernel may keep on using
them, and the engine with its I/O context closed. -/
def retire (e : Engine) (m : Machine κ) : Bool × Engine × Machine κ :=
  let inFlight := e.endpoints.inFlight
  let m := m.log (.releasing inFlight e.backlog.length)
  match e.context.close m with
  | (.ok (), context, m) => (false, { e with context }, m)
  | (.error _, context, m) =>
    if 0 < inFlight then (true, { e with context }, m.log (.leaking inFlight))
    else (false, { e with context }, m)

/-- Closes the kernel resources of a retired engine, in the order of the fields. -/
def closeAll (e : Engine) (m : Machine κ) : Machine κ :=
  e.doorbell.drop (e.context.drop m)

/-- Lets go of an engine. -/
def drop (e : Engine) (m : Machine κ) : Machine κ :=
  let (leaking, e, m) := e.retire m
  let m := e.closeAll m
  if leaking then m else m.releaseAll e.endpoints.regions

/-! ## Creating an engine with its endpoints -/

/-- How many buffers the endpoints need on top of `total` others; the first unusable endpoint, or
the first that takes the sum past a machine word, is reported. It is the first loop of
`with_endpoints_and_platform`. -/
def totalCount : List EndpointPlan → Nat → Except TransferError Nat
  | [], total => .ok total
  | plan :: plans, total =>
    match plan.check with
    | .error err => .error err
    | .ok () =>
      match Limits.checkedAdd total plan.count with
      | none => .error (.badArgument .bufferTotal)
      | some total => totalCount plans total

/-- Equips endpoints one after another from the given index on, up to the first failure: the second
loop. -/
def equipAll : Nat → List EndpointPlan → Engine → Machine κ → Except Fault Unit × Engine × Machine κ
  | _, [], e, m => (.ok (), e, m)
  | index, plan :: plans, e, m =>
    match e.equip index plan m with
    | (.error f, e, m) => (.error f, e, m)
    | (.ok (), e, m) => equipAll (index + 1) plans e m

/-- An engine with all its endpoints equipped, of exactly the size they need
(`with_endpoints_and_platform`). -/
def createEquipped (plans : List EndpointPlan) (m : Machine κ) : Except Fault Engine × Machine κ :=
  match totalCount plans 0 with
  | .error err => (.error (.error err), m)
  | .ok total =>
    match create plans.length total m with
    | (.error err, m) => (.error (.error err), m)
    | (.ok e, m) =>
      match equipAll 0 plans e m with
      | (.error f, e, m) => (.error f, e.drop m)
      | (.ok (), e, m) => (.ok e, m)

end Gadget.Engine
