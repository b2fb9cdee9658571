import Gadget.Proofs.Conversation
import Gadget.Proofs.Lifetime
import Gadget.Proofs.Sizing
/-!
# Engines that are created with their endpoints

There are five ways for such a creation to end (`Built`), of which one leads to an engine. The other four
leave nothing behind: where memory was refused, the engine is let go of with nothing in flight, so that it
closes its handles (`openHandles`), and what was allocated before the call is all that is allocated after it
(`Spared`).
-/
namespace Gadget

/-! ## Handles -/

/-- Something that the kernel keeps for the program until it is given back. -/
inductive KernelHandle
  | context (id : UInt64)
  | file (number : Int32)
deriving DecidableEq, Repr

/-- What a call opened. -/
def Call.opened? : Call → Option KernelHandle
  | .setup _ (.ok id) => some (.context id)
  | .eventfd (.ok number) => some (.file number)
  | _ => none

/-- What a call closed. -/
def Call.closed? : Call → Option KernelHandle
  | .destroy id (.ok ()) => some (.context id)
  | .close number (.ok ()) => some (.file number)
  | _ => none

/-- The handles that calls opened and did not close since. -/
def openHandles (made : List Call) : List KernelHandle :=
  made.foldl (fun handles c =>
    (handles ++ c.opened?.toList).filter fun handle => c.closed? ≠ some handle) []

namespace Session

variable {κ : Type} [Kernel κ]

/-- Makes calls one after another: their answers, and the session afterwards. -/
def performAll : List Command → Session κ → List (Except Refusal Answer) × Session κ
  | [], s => ([], s)
  | c :: commands, s =>
    let (answer, s) := s.perform c
    let (answers, s) := performAll commands s
    (answer :: answers, s)

end Session

namespace Engine

variable {κ : Type} {e e' : Engine} {m m' : Machine κ}

/-! ## What was allocated before -/

/-- Beside the regions of the engine's buffers, those of an earlier machine are allocated, and they are
none of its buffers'. -/
structure Spared (m₀ : Machine κ) (e : Engine) (m : Machine κ) : Prop where
  kept : ∀ region size, m₀.memory.length? region = some size →
    m.memory.length? region = some size ∧ region ∉ e.endpoints.regions
  known : ∀ region size, m.memory.length? region = some size →
    m₀.memory.length? region = some size ∨ region ∈ e.endpoints.regions

namespace Spared

variable {m₀ : Machine κ}

theorem equipped {index : Nat} {plan : EndpointPlan} {buffers : List Buffer} (h : Spared m₀ e m)
    (hs : Sound e) (hq : Equipped index plan buffers e m e' m') : Spared m₀ e' m' where
  kept region size hl := by
    obtain ⟨hm, hnot⟩ := h.kept region size hl
    refine ⟨Memory.length?_append hq.machine.cells hm, ?_⟩
    intro hin
    obtain ⟨s, file, b, hf, hr⟩ := (hq.sound hs).exists_find?_of_mem_regions hin
    rcases hq.find?_cases hf with ⟨-, hold⟩ | ⟨hslot, -, hb⟩
    · exact hnot (hr ▸ mem_regions_of_find? hold)
    · -- new regions have numbers of their own
      have hlt := Memory.lt_of_length? hm
      rw [← hr, (hq.new hslot hb).2.1] at hlt
      simp only at hlt
      omega
  known region size hl := by
    rcases Memory.length?_append_cases hq.machine.cells hl with hl | ⟨j, hj, rfl⟩
    · rcases h.known region size hl with hm | hm
      · exact .inl hm
      · exact .inr (hq.keeps.mem_regions hs hm)
    · exact .inr (hq.mem_regions hs hj)

variable [Kernel κ]

theorem equip (h : Spared m₀ e m) (hs : Sound e) (index : Nat) (plan : EndpointPlan) :
    Spared m₀ (e.equip index plan m).2.1 (e.equip index plan m).2.2 := by
  rcases equip_cases hs index plan m with ⟨err, k, m', he, hg⟩ | ⟨buffers, e', m', he, hq⟩
  · rw [he]
    constructor
    · intro region size hl
      rw [Memory.length?_append_released hg.cells]
      exact h.kept region size hl
    · intro region size hl
      rw [Memory.length?_append_released hg.cells] at hl
      exact h.known region size hl
  · rw [he]
    exact h.equipped hs hq

theorem equipAll (h : Spared m₀ e m) (hs : Sound e) (index : Nat) (plans : List EndpointPlan) :
    Spared m₀ (Engine.equipAll index plans e m).2.1 (Engine.equipAll index plans e m).2.2 := by
  have hall := equipAll_induction (P := fun e m => Sound e ∧ Spared m₀ e m) ?_ ⟨hs, h⟩ index plans
  · exact hall.2
  rintro index plan e m ⟨hs, h⟩
  refine ⟨?_, h.equip hs index plan⟩
  exact (equip_frame hs index plan m).1

theorem created {endpointCount maxEvents : Nat} (h : Created endpointCount maxEvents m e m') :
    Spared m e m' := by
  have hnone : e.endpoints.regions = [] := by
    rw [EndpointTable.regions, h.buffers_eq_nil]
    rfl
  constructor
  · intro region size hl
    rw [h.memory, hnone]
    exact ⟨hl, List.not_mem_nil⟩
  · intro region size hl
    rw [h.memory] at hl
    exact .inl hl

/-- Once the engine is let go of, its regions are gone and the others are still there. -/
theorem isLive_dropped (h : Spared m₀ e m) {destroyed closed : Except Errno Unit}
    (hd : Dropped destroyed closed e m m') (hleaks : e.leaks destroyed = false) (region : Nat) :
    m'.memory.isLive region = m₀.memory.isLive region := by
  rw [hd.memory, hleaks, if_neg Bool.false_ne_true, Memory.isLive_eq, Memory.isLive_eq,
    Memory.length?_releaseAll]
  cases hl : m₀.memory.length? region with
  | some size =>
    obtain ⟨hm, hnot⟩ := h.kept region size hl
    rw [if_neg hnot, hm]
  | none =>
    split
    · rfl
    · rename_i hnot
      cases hm : m.memory.length? region with
      | none => rfl
      | some size =>
        rcases h.known region size hm with hold | hin
        · rw [hl] at hold
          cases hold
        · exact absurd hin hnot

end Spared

/-! ## The whole call -/

variable [Kernel κ]

/-- How the creation of an engine with its endpoints ends. -/
inductive Built (plans : List EndpointPlan) (m : Machine κ) : Except Fault Engine → Machine κ → Prop
  | unsizable {fault : ArgumentFault} (h : Unsizable plans) :
    Built plans m (.error (.error (.badArgument fault))) m
  /-- There is no memory for the bookkeeping. -/
  | unreserved (h : ¬ Unsizable plans) : Built plans m (.error (.error .outOfMemory)) m
  | refused {errno : Errno} {m' : Machine κ} (h : ¬ Unsizable plans)
    (hf : CreateFailed (totalBuffers plans) errno m m') :
    Built plans m (.error (.error (.setupFailed errno))) m'
  /-- There is no memory for the buffers of one of the endpoints. -/
  | abandoned {e₀ e : Engine} {m₀ m₁ : Machine κ} (h : ¬ Unsizable plans)
    (hc : create plans.length (totalBuffers plans) m = (.ok e₀, m₀))
    (ha : Engine.equipAll 0 plans e₀ m₀ = (.error (.error .outOfMemory), e, m₁)) :
    Built plans m (.error (.error .outOfMemory)) (e.drop m₁)
  | filled {e₀ e : Engine} {m₀ m' : Machine κ} (h : ¬ Unsizable plans)
    (hc : create plans.length (totalBuffers plans) m = (.ok e₀, m₀))
    (ha : Engine.equipAll 0 plans e₀ m₀ = (.ok (), e, m'))
    (hf : Filled plans plans.length (totalBuffers plans) e) : Built plans m (.ok e) m'

theorem Filled.created {endpointCount maxEvents : Nat} (h : Created endpointCount maxEvents m e m') :
    Filled [] endpointCount maxEvents e where
  sound := h.sound
  maxEvents := h.maxEvents_eq
  endpointCount := by
    rw [h.engine, Engine.endpointCount, EndpointTable.count, EndpointTable.vacant, List.length_replicate]
  owned := by rw [h.engine]; rfl
  backlog := h.backlog_slots
  furnished i plan hi := by cases hi
  vacant i _ hlt := by rw [h.engine]; exact List.getElem?_replicate_of_lt hlt

theorem createEquipped_built (plans : List EndpointPlan) (m : Machine κ) :
    Built plans m (createEquipped plans m).1 (createEquipped plans m).2 := by
  rcases totalCount_cases plans (Nat.zero_le Limits.word) with ⟨hu, hw, ht⟩ | ⟨hbad, fault, ht⟩
  swap
  · have hun : Unsizable plans := by
      rw [Nat.zero_add] at hbad
      rcases hbad with hbad | hbad
      · exact .inr (.inr (.inl hbad))
      · exact .inr (.inr (.inr (.inl hbad)))
    simp only [createEquipped, ht]
    exact .unsizable hun
  rw [Nat.zero_add] at hw ht
  by_cases hun : Unsizable plans
  · obtain ⟨fault, hfault⟩ := checkSize_of_unsizable hu hw hun
    have hr : reserve plans.length (totalBuffers plans) m = .error (.badArgument fault) := by
      simp only [reserve, hfault]
      rfl
    simp only [createEquipped, ht, create, hr]
    exact .unsizable hun
  have hsize := checkSize_of_sizable hun
  rcases create_cases plans.length (totalBuffers plans) m with
    ⟨err, hr, he⟩ | ⟨errno, m', he, hf⟩ | ⟨e₀, m₀, he⟩
  · obtain rfl := reserve_error hsize hr
    simp only [createEquipped, ht, he]
    exact .unreserved hun
  · simp only [createEquipped, ht, he]
    exact .refused hun hf
  · have hstart := Filled.created (create_eq_ok he)
    rcases hstart.equipAll (by simp) hu (by simp [totalBuffers]) m₀ with
      ⟨e, m', ha, hf⟩ | ⟨e, m₁, ha⟩
    · rw [List.length_nil] at ha
      simp only [createEquipped, ht, he, ha]
      exact .filled hun he ha hf
    · rw [List.length_nil] at ha
      simp only [createEquipped, ht, he, ha]
      exact .abandoned hun he ha

/-- Endpoints that can be equipped one after another are equipped by as many calls. -/
theorem performAll_equipAll {plans : List EndpointPlan} {index : Nat}
    (h : Engine.equipAll index plans e m = (.ok (), e', m')) :
    Session.performAll (plans.mapIdx fun i plan => .call (.equip (index + i) plan)) ⟨some e, m⟩ =
      (List.replicate plans.length (.ok .done), ⟨some e', m'⟩) := by
  induction plans generalizing index e m with
  | nil =>
    cases h
    rfl
  | cons plan plans ih =>
    obtain ⟨e₁, m₁, hq, hrest⟩ := equipAll_cons_eq_ok h
    have hnext := ih hrest
    simp only [Nat.add_assoc, Nat.add_comm 1] at hnext
    simp only [List.mapIdx_cons, Nat.add_zero, Session.performAll, Session.perform, Engine.perform, hq,
      Refusal.ofFault, hnext, List.length_cons, List.replicate_succ]

/-- An engine that is given up because an endpoint is in want of memory has nothing in flight, so that it
closes its two handles and releases all its regions. -/
theorem abandoned_spec {endpointCount maxEvents : Nat} {plans : List EndpointPlan} {f : Fault}
    {e₀ : Engine} {m₀ m₁ : Machine κ} (hc : create endpointCount maxEvents m = (.ok e₀, m₀))
    (ha : Engine.equipAll 0 plans e₀ m₀ = (.error f, e, m₁)) :
    ∃ destroyed closed, Dropped destroyed closed e m₁ (e.drop m₁) ∧
      (∀ region, (e.drop m₁).memory.isLive region = m.memory.isLive region) ∧
      (e.drop m₁).calls = m.calls ++ [.setup (.ofNat maxEvents) (.ok e.context.id),
        .eventfd (.ok e.doorbell.file), .destroy e.context.id destroyed,
        .close e.doorbell.file closed] := by
  have hcreated := create_eq_ok hc
  have hframe := equipAll_frame hcreated.sound 0 plans m₀
  have hidle := equipAll_not_inFlight hcreated.sound
    (fun s => by rw [hcreated.phase?_eq_none]; simp) 0 plans m₀
  have hspared := (Spared.created hcreated).equipAll hcreated.sound 0 plans
  rw [ha] at hframe hidle hspared
  obtain ⟨hs, hcontext, hdoorbell, -, hcalls⟩ := hframe
  have hopen : e.context.closed = false := by
    rw [hcontext]
    exact create_unclosed hc
  obtain ⟨destroyed, closed, hd⟩ := drop_spec hopen m₁
  have hleaks : e.leaks destroyed = false := by
    cases destroyed with
    | ok u => rfl
    | error errno => simp [leaks, hs.inFlight_eq_zero hidle]
  refine ⟨destroyed, closed, hd, hspared.isLive_dropped hd hleaks, ?_⟩
  rw [hd.calls, hcalls, hcreated.calls, hcontext, hdoorbell, List.append_assoc]
  rfl

/-- What is opened for an engine that cannot be completed is closed again. -/
theorem Built.openHandles_eq_nil {plans : List EndpointPlan} {f : Fault}
    (h : Built plans m (.error f) m') :
    ∃ made, m'.calls = m.calls ++ made ∧
      ((∀ c ∈ made, c.complaint? = none) → openHandles made = []) := by
  cases h with
  | unsizable h => exact ⟨[], by rw [List.append_nil], fun _ => rfl⟩
  | unreserved h => exact ⟨[], by rw [List.append_nil], fun _ => rfl⟩
  | refused h hf =>
    cases hf with
    | refused kernel memory calls => exact ⟨_, calls, fun _ => rfl⟩
    | @withdrawn id destroyed k k' setup eventfd destroy memory calls complained =>
      refine ⟨_, calls, ?_⟩
      intro hc
      cases destroyed with
      | ok u => simp [openHandles, Call.opened?, Call.closed?]
      | error errno =>
        have hfailed := hc (.destroy id (.error errno)) (by simp)
        cases hfailed
  | @abandoned e₀ e m₀ m₁ h hc ha =>
    obtain ⟨destroyed, closed, -, -, hcalls⟩ := abandoned_spec hc ha
    refine ⟨_, hcalls, ?_⟩
    intro hall
    cases destroyed with
    | error errno =>
      have hfailed := hall (.destroy e.context.id (.error errno)) (by simp)
      cases hfailed
    | ok u =>
      cases closed with
      | error errno =>
        have hfailed := hall (.close e.doorbell.file (.error errno)) (by simp)
        cases hfailed
      | ok u => simp [openHandles, Call.opened?, Call.closed?]

/-- Nothing is allocated for an engine that cannot be completed. -/
theorem Built.isLive_eq {plans : List EndpointPlan} {f : Fault} (h : Built plans m (.error f) m')
    (region : Nat) : m'.memory.isLive region = m.memory.isLive region := by
  cases h with
  | unsizable h => rfl
  | unreserved h => rfl
  | refused h hf => rw [hf.memory_eq]
  | abandoned h hc ha =>
    obtain ⟨destroyed, closed, -, hlive, -⟩ := abandoned_spec hc ha
    exact hlive region

/-- **An engine with its endpoints is created as a whole or not at all, and of exactly the size that they
need**, beside any kernel. If there can be no such engine, an argument is bad and nothing is touched.
Otherwise the engine is created, or there is no memory, or the kernel refuses one of its handles; it is
never too small, and no contract is broken. A new engine has room for just its buffers, all of which wait
in the order of their slots, and every endpoint is as planned: it is the engine that creating one for as
many operations and then equipping the endpoints one by one leads to. If the creation fails, just what was
allocated before is allocated after it, and unless the kernel refuses to close a handle, none that was opened
is left. -/
theorem createEquipped_all_or_nothing (plans : List EndpointPlan) (m : Machine κ) :
    (Unsizable plans →
      ∃ fault, createEquipped plans m = (.error (.error (.badArgument fault)), m)) ∧
    (¬ Unsizable plans →
      (∃ e, (createEquipped plans m).1 = .ok e) ∨
      (createEquipped plans m).1 = .error (.error .outOfMemory) ∨
      ∃ errno, (createEquipped plans m).1 = .error (.error (.setupFailed errno))) ∧
    (∀ e m', createEquipped plans m = (.ok e, m') →
      (e.maxEvents = totalBuffers plans ∧ e.waiting = totalBuffers plans ∧
        e.owned = totalBuffers plans) ∧
      (e.endpointCount = plans.length ∧ ∀ i plan, plans[i]? = some plan → e.Furnished i plan) ∧
      (e.backlog.slots = allSlots plans ∧ e.backlog.slots.Pairwise (· < ·)) ∧
      Session.performAll (.create plans.length (totalBuffers plans) ::
          plans.mapIdx fun i plan => .call (.equip i plan)) ⟨none, m⟩ =
        (List.replicate (plans.length + 1) (.ok .done), ⟨some e, m'⟩)) ∧
    ∀ f m', createEquipped plans m = (.error f, m') →
      (∀ region, m'.memory.isLive region = m.memory.isLive region) ∧
      ∃ made, m'.calls = m.calls ++ made ∧
        ((∀ c ∈ made, c.complaint? = none) → openHandles made = []) := by
  have hbuilt := createEquipped_built plans m
  refine ⟨?_, ?_, ?_, ?_⟩
  · intro hun
    generalize hresult : createEquipped plans m = result at hbuilt
    obtain ⟨outcome, m'⟩ := result
    cases hbuilt with
    | @unsizable fault h => exact ⟨fault, rfl⟩
    | unreserved h => exact absurd hun h
    | refused h hf => exact absurd hun h
    | abandoned h hc ha => exact absurd hun h
    | filled h hc ha hf => exact absurd hun h
  · intro hsizable
    generalize (createEquipped plans m).1 = outcome at hbuilt ⊢
    generalize (createEquipped plans m).2 = m' at hbuilt
    cases hbuilt with
    | unsizable h => exact absurd h hsizable
    | unreserved h => exact .inr (.inl rfl)
    | refused h hf => exact .inr (.inr ⟨_, rfl⟩)
    | abandoned h hc ha => exact .inr (.inl rfl)
    | filled h hc ha hf => exact .inl ⟨_, rfl⟩
  · intro e m' he
    rw [he] at hbuilt
    cases hbuilt with
    | @filled e₀ _ m₀ _ hsizable hc ha hf =>
    simp only [Unsizable, not_or, Nat.not_lt] at hsizable
    obtain ⟨-, hlength, -, -, htotal⟩ := hsizable
    refine ⟨⟨hf.maxEvents, ?_, hf.owned⟩, ⟨hf.endpointCount, hf.furnished⟩, ⟨hf.backlog, ?_⟩, ?_⟩
    · rw [waiting, Backlog.length, hf.backlog, length_allSlots]
    · rw [hf.backlog]
      refine pairwise_allSlots hlength ?_
      intro plan hm
      have hle := count_le_totalBuffers hm
      simp only [Limits.int32, Limits.uint32] at htotal ⊢
      omega
    · have hall := performAll_equipAll ha
      simp only [Nat.zero_add] at hall
      simp only [Session.performAll, Session.perform, Session.dropEngine, hc, hall, List.replicate_succ]
  · intro f m' he
    rw [he] at hbuilt
    exact ⟨hbuilt.isLive_eq, hbuilt.openHandles_eq_nil⟩

/-- Two endpoints with five buffers. -/
def fivePlans : List EndpointPlan := [⟨7, .read, 2, 4, 1⟩, ⟨8, .write, 3, 5, 0⟩]

/-- The engine for them has room for five operations. If the fourth of the five regions is refused, there
is nothing left of it. -/
theorem createEquipped_all_or_nothing_five :
    (∃ (e : Engine) (m' : Machine SimulatedKernel),
      createEquipped fivePlans (.boot .fresh) = (.ok e, m') ∧ e.maxEvents = 5 ∧
        e.backlog.slots = [⟨0, 0⟩, ⟨0, 1⟩, ⟨1, 0⟩, ⟨1, 1⟩, ⟨1, 2⟩]) ∧
    ∃ (m m' : Machine SimulatedKernel),
      createEquipped fivePlans m = (.error (.error .outOfMemory), m') ∧ m'.memory.requests = 4 ∧
        (∀ region, m'.memory.isLive region = m.memory.isLive region) ∧ m'.calls.length = 4 ∧
        openHandles m'.calls = [] := by
  constructor
  · have hok : (createEquipped fivePlans (.boot .fresh : Machine SimulatedKernel)).1.isOk := by
      decide +kernel
    cases hresult : createEquipped fivePlans (.boot .fresh : Machine SimulatedKernel) with
    | mk outcome m' =>
    cases outcome with
    | error f =>
      rw [hresult] at hok
      cases hok
    | ok e =>
      obtain ⟨⟨hmax, -⟩, -, ⟨hslots, -⟩, -⟩ :=
        (createEquipped_all_or_nothing fivePlans _).2.2.1 e m' hresult
      refine ⟨e, m', rfl, hmax, ?_⟩
      rw [hslots]
      decide
  · let m : Machine SimulatedKernel := (Machine.boot .fresh).kernelStep none (.refuse .region 3) |>.2
    have hrun : (createEquipped fivePlans m).1 = .error (.error .outOfMemory) ∧
        (createEquipped fivePlans m).2.memory.requests = 4 ∧
        (createEquipped fivePlans m).2.calls.length = 4 ∧
        (createEquipped fivePlans m).2.calls.all (fun c => c.complaint?.isNone) := by decide +kernel
    obtain ⟨herror, hrequests, hlength, hquiet⟩ := hrun
    obtain ⟨hlive, made, hcalls, hclosed⟩ :=
      (createEquipped_all_or_nothing fivePlans m).2.2.2 _ _ (Prod.ext herror rfl)
    have hmade : (createEquipped fivePlans m).2.calls = made := hcalls
    refine ⟨m, (createEquipped fivePlans m).2, Prod.ext herror rfl, hrequests, hlive, hlength, ?_⟩
    rw [hmade]
    refine hclosed ?_
    intro c hc
    rw [hmade, List.all_eq_true] at hquiet
    exact Option.isNone_iff_eq_none.1 (hquiet c hc)

end Engine
end Gadget
