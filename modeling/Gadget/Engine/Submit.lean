import Gadget.Engine.Basic
/-!
# Submitting armed buffers: `Context::submit`

A submission offers the kernel the descriptors of all armed buffers, in the order of arming. What
the kernel accepts is a prefix: its slots leave the backlog and their buffers are in flight. The
rest waits for the next submission.
-/
namespace Gadget.Engine

variable {κ : Type} [Kernel κ]

/-- Submits every armed buffer: how many the kernel accepted. Without armed buffers there is no
kernel call, and a count beyond the batch counts as all of it. -/
def submit (e : Engine) (m : Machine κ) : Except Fault Nat × Engine × Machine κ :=
  if e.backlog.isEmpty then (.ok 0, e, m)
  else
    match e.endpoints.descriptors e.backlog.slots with
    | .error err => (.error (.error err), e, m)
    | .ok batch =>
      match e.context.submit batch m with
      | (.error errno, m) => (.error (.error (.callFailed errno)), e, m)
      | (.ok count, m) =>
        let requested := e.backlog.length
        let accepted := min count requested
        let (slots, backlog) := e.backlog.take accepted
        let (outcome, endpoints) := e.endpoints.launch slots
        let e := { e with backlog, endpoints }
        match outcome with
        | .error f => (.error f, e, m)
        | .ok () =>
          (.ok accepted, e,
            m.log (if accepted < requested then .partlySubmitted requested accepted
              else .submitted accepted))

end Gadget.Engine
