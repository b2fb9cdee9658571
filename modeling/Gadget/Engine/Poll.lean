import Gadget.Engine.Basic
/-!
# Polling for completions: `Context::poll`

A poll waits for the doorbell, lets the kernel write completion records into the record array and
goes through as many of them as the kernel claims, though never past the end of the array. A
record counts if it names a buffer that is in flight at that moment, so the second of two equal
records does not. Records that count are moved to the front of the array while the sweep goes on;
the place they move to is never behind the place being read.
-/
namespace Gadget.Engine

/-- The state of a sweep over the records of one poll: `events`, `valid` and `first_rejection` of the loop,
with the endpoints that it changes. -/
structure Sweep where
  endpoints : EndpointTable
  records : List Record
  /-- How many records counted so far; they are at the front. -/
  valid : Nat
  /-- Why the first record that did not count was refused. -/
  rejection : Option TransferError
  /-- One event for each record that did not count. -/
  discarded : List Event
deriving DecidableEq, Repr

namespace Sweep

/-- Looks at the record of one index: the body of the loop. -/
def step (index : Nat) (s : Sweep) : Except Defect Sweep :=
  match s.records[index]? with
  | none => .error (.recordIndex index s.records.length)
  | some record =>
    match s.endpoints.complete record.slot with
    | .ok endpoints =>
      if s.valid < s.records.length then
        .ok { s with endpoints, records := s.records.set s.valid record, valid := s.valid + 1 }
      else .error (.recordIndex s.valid s.records.length)
    | .error err =>
      .ok { s with
        rejection := s.rejection.or (some err)
        discarded := s.discarded ++ [.discarded record.slot record.result err] }

/-- Looks at `count` records from the given index on. -/
def run : Nat → Nat → Sweep → Except Defect Sweep
  | _, 0, s => .ok s
  | index, count + 1, s =>
    match s.step index with
    | .error d => .error d
    | .ok s => run (index + 1) count s

end Sweep

variable {κ : Type} [Kernel κ]

/-- Collects completions: how many there are. If the kernel delivered records and none of them
counted, the poll fails with the reason against the first. -/
def poll (e : Engine) (m : Machine κ) : Except Fault Nat × Engine × Machine κ :=
  let e := { e with ready := 0 }
  match e.doorbell.wait m with
  | (.error errno, m) => (.error (.error (.callFailed errno)), e, m)
  | (.ok signaled, m) =>
    match e.context.collect 1 e.records m with
    | (.error errno, records, m) =>
      (.error (.error (.callFailed errno)), { e with records }, m)
    | (.ok count, records, m) =>
      let received := min count records.length
      match Sweep.run 0 received ⟨e.endpoints, records, 0, none, []⟩ with
      | .error d => (.error (.defect d), { e with records }, m)
      | .ok s =>
        let e := { e with endpoints := s.endpoints, records := s.records, ready := s.valid }
        let m := (m.logAll s.discarded).log (.polled signaled received s.valid)
        match s.rejection with
        | some err => (if s.valid = 0 then .error (.error err) else .ok s.valid, e, m)
        | none => (.ok s.valid, e, m)

end Gadget.Engine
