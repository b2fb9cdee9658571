import Gadget.Engine.Release
import Gadget.Proofs.Course
import Gadget.Proofs.Regions
/-!
# Letting go of handles and of engines

A handle is closed once: a creation whose doorbell fails gives its I/O context back (`create_cases`), and
an engine that is let go of closes its I/O context, then its doorbell, then releases its regions, unless
the kernel kept the I/O context while buffers were in flight (`drop_spec`). A failure to close is logged
and otherwise ignored. `DropPoint` names the machines that an engine passes on its way out. A request for
an engine, with endpoints or without, is rejected, cut short or granted (`Creation.perform_cases`), and if
it fails after that, what was granted is given back.
-/
namespace Gadget

variable {κ : Type}

/-- The event that reports the failure of a closing call. -/
def Call.complaint? : Call → Option Event
  | .destroy id (.error errno) => some (.closeContextFailed id errno)
  | .close file (.error errno) => some (.closeDoorbellFailed file errno)
  | _ => none

/-- Every closing call among `made` that failed was logged. -/
def Machine.Complained (made : List Call) (m : Machine κ) : Prop :=
  ∀ c ∈ made, ∀ event, c.complaint? = some event → event ∈ m.events

/-- Calls that close nothing need no event. -/
theorem Machine.Complained.after {closing : List Call} {m : Machine κ} (h : m.Complained closing)
    (made : List Call) (hs : ∀ c ∈ made, c.complaint? = none) : m.Complained (made ++ closing) := by
  intro c hm event he
  rcases List.mem_append.1 hm with hm | hm
  · rw [hs c hm] at he
    cases he
  · exact h c hm event he

/-! ## Handles -/

variable [Kernel κ]

/-- The event that reports what came of closing an I/O context. -/
def IoContext.closingEvent (id : UInt64) : Except Errno Unit → Event
  | .ok () => .closedContext id
  | .error errno => .closeContextFailed id errno

/-- Closing a handle that was not closed asks the kernel and logs what came of it. -/
theorem IoContext.close_eq {h : IoContext} (hc : h.closed = false) {m : Machine κ}
    {destroyed : Except Errno Unit} {k : κ} (hk : Kernel.destroy h.id m.kernel = (destroyed, k)) :
    h.close m = (destroyed, { h with closed := true },
      (m.called (.destroy h.id destroyed) k).log (closingEvent h.id destroyed)) := by
  simp only [IoContext.close, hc, Bool.false_eq_true, if_false, Machine.destroy, hk]
  cases destroyed <;> rfl

/-- A handle that was closed is closed no second time. -/
theorem IoContext.drop_of_closed {h : IoContext} (hc : h.closed) (m : Machine κ) : h.drop m = m := by
  simp [IoContext.drop, IoContext.close, hc]

/-- What closing a doorbell does. -/
theorem Doorbell.drop_spec (h : Doorbell) {m : Machine κ} {closed : Except Errno Unit} {k : κ}
    (hk : Kernel.close h.file m.kernel = (closed, k)) :
    (h.drop m).kernel = k ∧ (h.drop m).memory = m.memory ∧
      (h.drop m).calls = m.calls ++ [.close h.file closed] ∧
      (∀ event ∈ m.events, event ∈ (h.drop m).events) ∧
      (h.drop m).Complained [.close h.file closed] := by
  simp only [Doorbell.drop, Machine.close, hk]
  cases closed with
  | ok u => exact ⟨rfl, rfl, rfl, fun _ hm => hm, by simp [Machine.Complained, Call.complaint?]⟩
  | error errno =>
    refine ⟨rfl, rfl, rfl, fun _ hm => List.mem_append_left _ hm, ?_⟩
    simp [Machine.Complained, Call.complaint?, Machine.log]

namespace Engine

variable {e : Engine} {m m' : Machine κ}

/-! ## A creation that fails -/

/-- What a creation does that the kernel cut short. -/
inductive CreateFailed (maxEvents : Nat) (errno : Errno) (m m' : Machine κ) : Prop
  | refused (kernel : Kernel.setup (.ofNat maxEvents) m.kernel = (.error errno, m'.kernel))
    (memory : m'.memory = m.memory)
    (calls : m'.calls = m.calls ++ [.setup (.ofNat maxEvents) (.error errno)])
  /-- There was no doorbell, so the I/O context went back. -/
  | withdrawn {id : UInt64} {destroyed : Except Errno Unit} {k k' : κ}
    (setup : Kernel.setup (.ofNat maxEvents) m.kernel = (.ok id, k))
    (eventfd : Kernel.eventfd k = (.error errno, k'))
    (destroy : Kernel.destroy id k' = (destroyed, m'.kernel)) (memory : m'.memory = m.memory)
    (calls : m'.calls = m.calls ++
      [.setup (.ofNat maxEvents) (.ok id), .eventfd (.error errno), .destroy id destroyed])
    (complained : m'.Complained [.destroy id destroyed])

/-- **Creating an engine** is rejected without any call, is cut short by the kernel, or succeeds. -/
theorem create_cases (endpointCount maxEvents : Nat) (m : Machine κ) :
    (∃ err, reserve endpointCount maxEvents m = .error err ∧
      create endpointCount maxEvents m = (.error err, m)) ∨
    (∃ errno m', create endpointCount maxEvents m = (.error (.setupFailed errno), m') ∧
      CreateFailed maxEvents errno m m') ∨
    (∃ e m', create endpointCount maxEvents m = (.ok e, m')) := by
  cases hr : reserve endpointCount maxEvents m with
  | error err => exact .inl ⟨err, rfl, by simp only [create, hr]⟩
  | ok x =>
    right
    cases hsetup : Kernel.setup (.ofNat maxEvents) m.kernel with
    | mk outcome k =>
    cases outcome with
    | error errno =>
      exact .inl ⟨errno, m.called (.setup (.ofNat maxEvents) (.error errno)) k,
        by simp only [create, hr, IoContext.create, Machine.setup, hsetup],
        .refused hsetup rfl rfl⟩
    | ok id =>
    cases heventfd : Kernel.eventfd k with
    | mk outcome k' =>
    cases outcome with
    | ok file =>
      exact .inr ⟨_, _, by simp only [create, hr, IoContext.create, Machine.setup, hsetup,
        Doorbell.create, Machine.eventfd, Machine.log, Machine.called, heventfd]; rfl⟩
    | error errno =>
      let context : IoContext := ⟨id, false⟩
      let opened : Machine κ := ((m.called (.setup (.ofNat maxEvents) (.ok id)) k).log
        (.openedContext id (.ofNat maxEvents))).called (.eventfd (.error errno)) k'
      cases hdestroy : Kernel.destroy id k' with
      | mk destroyed k'' =>
      have hdrop : context.drop opened = (opened.called (.destroy id destroyed) k'').log
          (IoContext.closingEvent id destroyed) := by
        rw [IoContext.drop, IoContext.close_eq (h := context) rfl (m := opened) hdestroy]
      refine .inl ⟨errno, context.drop opened, ?_, ?_⟩
      · simp only [create, hr, IoContext.create, Machine.setup, hsetup, Doorbell.create,
          Machine.eventfd, Machine.log, Machine.called, heventfd]
        rfl
      · rw [hdrop]
        refine .withdrawn hsetup heventfd hdestroy rfl ?_ ?_
        · simp [opened, Machine.log, Machine.called]
        · cases destroyed <;>
            simp [Machine.Complained, Call.complaint?, Machine.log, IoContext.closingEvent]

/-- The I/O context of a new engine was never closed. -/
theorem create_unclosed {endpointCount maxEvents : Nat}
    (h : create endpointCount maxEvents m = (.ok e, m')) : e.context.closed = false := by
  unfold create IoContext.create at h
  split at h
  · cases h
  · split at h
    · cases h
    · rename_i hopened
      split at hopened <;> cases hopened
      split at h <;> cases h
      rfl

/-! ## Letting go -/

/-- Whether an engine leaks the memory of its endpoints, after what the kernel said to closing its I/O
context. -/
def leaks (destroyed : Except Errno Unit) (e : Engine) : Bool :=
  match destroyed with
  | .ok () => false
  | .error _ => 0 < e.endpoints.inFlight

/-- The engine with its I/O context closed. -/
def retired (e : Engine) : Engine := { e with context := { e.context with closed := true } }

theorem retire_spec (hc : e.context.closed = false) {m : Machine κ} {destroyed : Except Errno Unit}
    {k : κ} (hk : Kernel.destroy e.context.id m.kernel = (destroyed, k)) :
    ∃ m₁, e.retire m = (e.leaks destroyed, e.retired, m₁) ∧ m₁.kernel = k ∧ m₁.memory = m.memory ∧
      m₁.calls = m.calls ++ [.destroy e.context.id destroyed] ∧
      m₁.Complained [.destroy e.context.id destroyed] := by
  let asked := (m.log (.releasing e.endpoints.inFlight e.backlog.length)).called
    (.destroy e.context.id destroyed) k
  have hclose := IoContext.close_eq hc
    (m := m.log (.releasing e.endpoints.inFlight e.backlog.length)) hk
  cases destroyed with
  | ok u =>
    exact ⟨asked.log (.closedContext e.context.id), by simp only [retire, hclose]; rfl, rfl, rfl, rfl,
      by simp [Machine.Complained, Call.complaint?]⟩
  | error errno =>
    have hlogged : (asked.log (.closeContextFailed e.context.id errno)).Complained
        [.destroy e.context.id (.error errno)] := by
      simp [Machine.Complained, Call.complaint?, Machine.log]
    by_cases hin : 0 < e.endpoints.inFlight
    · refine ⟨(asked.log (.closeContextFailed e.context.id errno)).log (.leaking e.endpoints.inFlight),
        by simp only [retire, hclose, leaks, hin, if_true, decide_true]; rfl, rfl, rfl, rfl, ?_⟩
      exact fun c hm event he => List.mem_append_left _ (hlogged c hm event he)
    · exact ⟨asked.log (.closeContextFailed e.context.id errno),
        by simp only [retire, hclose, leaks, hin, if_false, decide_false]; rfl, rfl, rfl, rfl, hlogged⟩

/-- A retired engine has only its doorbell left to close. -/
theorem closeAll_retired (e : Engine) (m : Machine κ) : e.retired.closeAll m = e.doorbell.drop m := by
  have hclosed : e.retired.context.closed = true := rfl
  rw [closeAll, IoContext.drop_of_closed hclosed]
  rfl

/-- What letting go of an engine does: the kernel said `destroyed` to closing the I/O context and
`closed` to closing the doorbell. -/
structure Dropped (destroyed closed : Except Errno Unit) (e : Engine) (m m' : Machine κ) : Prop where
  kernel : ∃ k, Kernel.destroy e.context.id m.kernel = (destroyed, k) ∧
    Kernel.close e.doorbell.file k = (closed, m'.kernel)
  calls : m'.calls = m.calls ++
    [.destroy e.context.id destroyed, .close e.doorbell.file closed]
  memory : m'.memory =
    if e.leaks destroyed then m.memory else m.memory.releaseAll e.endpoints.regions
  complained : m'.Complained [.destroy e.context.id destroyed, .close e.doorbell.file closed]

/-- **Letting go of an engine** closes each of its two handles once, in this order. -/
theorem drop_spec (hc : e.context.closed = false) (m : Machine κ) :
    ∃ destroyed closed, Dropped destroyed closed e m (e.drop m) := by
  cases hdestroy : Kernel.destroy e.context.id m.kernel with
  | mk destroyed k =>
  obtain ⟨m₁, hretire, hk, hmem, hcalls, hlogged⟩ := retire_spec hc hdestroy
  cases hclose : Kernel.close e.doorbell.file k with
  | mk closed k' =>
  rw [← hk] at hclose
  obtain ⟨hk', hmem', hcalls', hkept, hlogged'⟩ := e.doorbell.drop_spec hclose
  have hdrop : e.drop m = if e.leaks destroyed then e.doorbell.drop m₁
      else (e.doorbell.drop m₁).releaseAll e.endpoints.regions := by
    simp only [drop, hretire, closeAll_retired]
    rfl
  refine ⟨destroyed, closed, ⟨k, hdestroy, ?_⟩, ?_, ?_, ?_⟩
  · rw [hdrop, ← hk, hclose, ← hk']
    split <;> rfl
  · rw [hdrop]
    split <;> simp [Machine.releaseAll, hcalls', hcalls]
  · rw [hdrop]
    split
    · rw [hmem', hmem]
    · rw [Machine.releaseAll, hmem', hmem]
  · have hevents : (e.drop m).events = (e.doorbell.drop m₁).events := by
      rw [hdrop]
      split <;> rfl
    intro c hm event he
    rw [hevents]
    rcases List.mem_cons.1 hm with rfl | hm
    · exact hkept event (hlogged _ (by simp) event he)
    · exact hlogged' c hm event he

/-- The machines that an engine passes while it is let go of. Regions are released one by one. -/
inductive DropPoint (e : Engine) (m : Machine κ) : Machine κ → Prop
  | before : DropPoint e m m
  | retired : DropPoint e m (e.retire m).2.2
  | closed : DropPoint e m ((e.retire m).2.1.closeAll (e.retire m).2.2)
  | releasing (hl : (e.retire m).1 = false) (count : Nat) : DropPoint e m
    (((e.retire m).2.1.closeAll (e.retire m).2.2).releaseAll
      ((e.retire m).2.1.endpoints.regions.take count))

/-- The last of them is what remains. -/
theorem DropPoint.last (e : Engine) (m : Machine κ) : DropPoint e m (e.drop m) := by
  cases hl : (e.retire m).1 with
  | true =>
    have hdrop : e.drop m = (e.retire m).2.1.closeAll (e.retire m).2.2 := by
      simp only [drop, hl, if_true]
    rw [hdrop]
    exact .closed
  | false =>
    have hdrop : e.drop m = ((e.retire m).2.1.closeAll (e.retire m).2.2).releaseAll
        (e.retire m).2.1.endpoints.regions := by
      simp only [drop, hl, Bool.false_eq_true, if_false]
    rw [hdrop, ← List.take_length (l := (e.retire m).2.1.endpoints.regions)]
    exact .releasing hl _

/-- Beyond its start, the way out leads through the state that the I/O context is closed in, and no region
is released if the engine leaks. -/
theorem DropPoint.cases (hc : e.context.closed = false) {p : Machine κ} (h : DropPoint e m p) :
    p = m ∨ ∃ destroyed k, Kernel.destroy e.context.id m.kernel = (destroyed, k) ∧
      (p.kernel = k ∨ ∃ closed, Kernel.close e.doorbell.file k = (closed, p.kernel)) ∧
      (p.memory = m.memory ∨ e.leaks destroyed = false ∧
        ∃ count, p.memory = m.memory.releaseAll (e.endpoints.regions.take count)) := by
  cases hdestroy : Kernel.destroy e.context.id m.kernel with
  | mk destroyed k =>
  obtain ⟨m₁, hretire, hk, hmem, -⟩ := retire_spec hc hdestroy
  obtain ⟨hk', hmem', -⟩ := e.doorbell.drop_spec (m := m₁) rfl
  rw [hk] at hk'
  cases h with
  | before => exact .inl rfl
  | retired =>
    rw [hretire]
    exact .inr ⟨destroyed, k, rfl, .inl hk, .inl hmem⟩
  | closed =>
    rw [hretire, closeAll_retired]
    exact .inr ⟨destroyed, k, rfl, .inr ⟨_, Prod.ext rfl hk'.symm⟩, .inl (hmem'.trans hmem)⟩
  | releasing hl count =>
    rw [hretire] at hl ⊢
    rw [closeAll_retired]
    refine .inr ⟨destroyed, k, rfl, .inr ⟨_, Prod.ext rfl hk'.symm⟩, .inr ⟨hl, count, ?_⟩⟩
    rw [Machine.releaseAll, hmem', hmem]
    rfl

end Engine

/-! ## Requests for an engine -/

/-- A request for an engine. -/
inductive Creation
  | bare (endpoints maxEvents : Nat)
  | equipped (plans : List EndpointPlan)
deriving DecidableEq, Repr

namespace Creation

/-- The request as a call of the program. -/
def command : Creation → Command
  | bare endpoints maxEvents => .create endpoints maxEvents
  | equipped plans => .createEquipped plans

def endpointCount : Creation → Nat
  | bare endpoints _ => endpoints
  | equipped plans => plans.length

/-- The endpoints that are equipped at once. -/
def plans : Creation → List EndpointPlan
  | bare _ _ => []
  | equipped plans => plans

/-- What comes before the first kernel call: the arguments are checked, and memory for the bookkeeping is
reserved. The result is the number of operations. -/
def prepare (m : Machine κ) : Creation → Except TransferError Nat
  | bare endpoints maxEvents => (Engine.reserve endpoints maxEvents m).map fun _ => maxEvents
  | equipped plans =>
    match Engine.totalCount plans 0 with
    | .error err => .error err
    | .ok total => (Engine.reserve plans.length total m).map fun _ => total

/-- The two kinds of requests differ in what is checked first and in the endpoints. -/
theorem perform_eq (creation : Creation) (m : Machine κ) :
    (⟨none, m⟩ : Session κ).perform creation.command =
      match creation.prepare m with
      | .error err => (.error (.fault (.error err)), ⟨none, m⟩)
      | .ok size =>
        match Engine.create creation.endpointCount size m with
        | (.error err, m') => (.error (.fault (.error err)), ⟨none, m'⟩)
        | (.ok e₀, m₀) =>
          match Engine.equipAll 0 creation.plans e₀ m₀ with
          | (.error f, e, m') => (.error (.fault f), ⟨none, e.drop m'⟩)
          | (.ok (), e, m') => (.ok .done, ⟨some e, m'⟩) := by
  cases creation with
  | bare endpoints maxEvents =>
    simp only [command, Session.perform, Session.dropEngine, endpointCount]
    cases hr : Engine.reserve endpoints maxEvents m with
    | error err =>
      have hp : (bare endpoints maxEvents).prepare m = .error err := by simp only [prepare, hr, Except.map]
      simp only [hp, Engine.create, hr]
    | ok x =>
      have hp : (bare endpoints maxEvents).prepare m = .ok maxEvents := by
        simp only [prepare, hr, Except.map]
      simp only [hp, plans, Engine.equipAll]
      cases Engine.create endpoints maxEvents m with
      | mk outcome m' => cases outcome <;> rfl
  | equipped plans =>
    simp only [command, Session.perform, Session.dropEngine, Engine.createEquipped, endpointCount]
    cases ht : Engine.totalCount plans 0 with
    | error err =>
      have hp : (equipped plans).prepare m = .error err := by simp only [prepare, ht]
      simp only [hp]
    | ok total =>
      cases hr : Engine.reserve plans.length total m with
      | error err =>
        have hp : (equipped plans).prepare m = .error err := by simp only [prepare, ht, hr, Except.map]
        simp only [hp, Engine.create, hr]
      | ok x =>
        have hp : (equipped plans).prepare m = .ok total := by simp only [prepare, ht, hr, Except.map]
        simp only [hp, Creation.plans]
        cases Engine.create plans.length total m with
        | mk outcome m₀ =>
        cases outcome with
        | error err => rfl
        | ok e₀ =>
          simp only
          cases Engine.equipAll 0 plans e₀ m₀ with
          | mk outcome x => cases outcome <;> rfl

theorem reserve_of_prepare {creation : Creation} {m : Machine κ} {size : Nat}
    (h : creation.prepare m = .ok size) :
    ∃ x, Engine.reserve creation.endpointCount size m = .ok x := by
  cases creation with
  | bare endpoints maxEvents =>
    simp only [prepare] at h
    cases hr : Engine.reserve endpoints maxEvents m <;> rw [hr] at h <;> cases h
    exact ⟨_, hr⟩
  | equipped plans =>
    simp only [prepare] at h
    split at h
    · cases h
    · rename_i total ht
      cases hr : Engine.reserve plans.length total m <;> rw [hr] at h <;> cases h
      exact ⟨_, hr⟩

/-- The kernel granted both handles, and equipping the endpoints ended in `result`. -/
inductive Granted (creation : Creation) (m : Machine κ) : Except Fault Unit → Engine → Machine κ → Prop
  | intro {size : Nat} {e₀ e : Engine} {m₀ m' : Machine κ} {result : Except Fault Unit}
    (hp : creation.prepare m = .ok size)
    (hc : Engine.create creation.endpointCount size m = (.ok e₀, m₀))
    (ha : Engine.equipAll 0 creation.plans e₀ m₀ = (result, e, m')) :
    Granted creation m result e m'

theorem Granted.perform_ok {creation : Creation} {m m' : Machine κ} {e : Engine}
    (h : creation.Granted m (.ok ()) e m') :
    (⟨none, m⟩ : Session κ).perform creation.command = (.ok .done, ⟨some e, m'⟩) := by
  obtain ⟨hp, hc, ha⟩ := h
  simp only [creation.perform_eq, hp, hc, ha]

/-- If the endpoints cannot all be equipped, the engine is let go of. -/
theorem Granted.perform_error {creation : Creation} {m m' : Machine κ} {f : Fault} {e : Engine}
    (h : creation.Granted m (.error f) e m') :
    (⟨none, m⟩ : Session κ).perform creation.command = (.error (.fault f), ⟨none, e.drop m'⟩) := by
  obtain ⟨hp, hc, ha⟩ := h
  simp only [creation.perform_eq, hp, hc, ha]

/-- **A request for an engine** is rejected, cut short by the kernel, or granted. -/
theorem perform_cases (creation : Creation) (m : Machine κ) :
    (∃ err, creation.prepare m = .error err ∧
      (⟨none, m⟩ : Session κ).perform creation.command = (.error (.fault (.error err)), ⟨none, m⟩)) ∨
    (∃ size errno m', creation.prepare m = .ok size ∧ Engine.CreateFailed size errno m m' ∧
      (⟨none, m⟩ : Session κ).perform creation.command =
        (.error (.fault (.error (.setupFailed errno))), ⟨none, m'⟩)) ∨
    ∃ result e m', creation.Granted m result e m' := by
  cases hp : creation.prepare m with
  | error err => exact .inl ⟨err, rfl, by simp only [creation.perform_eq, hp]⟩
  | ok size =>
    obtain ⟨x, hx⟩ := reserve_of_prepare hp
    rcases Engine.create_cases creation.endpointCount size m with
      ⟨err, hr, -⟩ | ⟨errno, m', he, hf⟩ | ⟨e₀, m₀, he⟩
    · rw [hx] at hr
      cases hr
    · exact .inr (.inl ⟨size, errno, m', rfl, hf, by simp only [creation.perform_eq, hp, he]⟩)
    · exact .inr (.inr ⟨_, _, _, .intro hp he rfl⟩)

end Creation

end Gadget
