import Gadget.Proofs.Dropping
import Gadget.Proofs.Housing
import Gadget.Proofs.Placement
/-!
# Memory outlives the kernel's use of it

Three books are kept of a buffer's memory: the kernel's operations, the phases of the buffers, and the
allocator's regions. While an engine exists they agree, since an operation belongs to a buffer in flight
(`Accounted`), a buffer has a region (`Housed`), and there is no region without a buffer (`Tenanted`).
Letting go of the engine keeps the order that this needs: regions are released only after the kernel gave up
its operations, or when there is none (`Course.backed_of_dropPoint`), and then all of them are
(`Course.released_or_leaked`). A request for an engine that fails takes the same way out
(`Creation.released_of_none`).
-/
namespace Gadget

/-- Every operation of an I/O context that exists transfers within a region that is allocated. -/
def Machine.Backed (m : Machine SimulatedKernel) : Prop :=
  ∀ o ∈ m.kernel.inFlight, o.context ∈ m.kernel.contexts → ∃ place size,
    o.descriptor.target = some place ∧ m.memory.length? place.region = some size ∧
      place.offset + o.descriptor.length ≤ size

namespace Machine.Backed

variable {m m' : Machine SimulatedKernel}

theorem of_idle (h : m.kernel.inFlight = []) : m.Backed := by
  intro o ho
  rw [h] at ho
  cases ho

/-- Operations may end and contexts be closed, as long as no region is released. -/
theorem of_fewer (h : m.Backed) (hops : ∀ o ∈ m'.kernel.inFlight, o ∈ m.kernel.inFlight)
    (hcontexts : ∀ id ∈ m'.kernel.contexts, id ∈ m.kernel.contexts)
    (hmem : ∀ region size, m.memory.length? region = some size →
      m'.memory.length? region = some size) : m'.Backed := by
  intro o ho hc
  obtain ⟨place, size, ht, hl, hle⟩ := h o (hops o ho) (hcontexts _ hc)
  exact ⟨place, size, ht, hmem _ _ hl, hle⟩

/-- What the kernel does by itself adds no operation and releases no region. -/
theorem kernelStep (h : m.Backed) (owner : Option UInt64) (step : KernelStep) :
    (m.kernelStep owner step).2.Backed := by
  have hmem : ∀ region size, m.memory.length? region = some size →
      (m.kernelStep owner step).2.memory.length? region = some size := fun region size hl => by
    rw [Memory.length?_congr (Machine.kernelStep_drift owner step m).shape]; exact hl
  cases step with
  | complete slot bytes result =>
    rcases complete_cases owner slot bytes result m with ⟨err, hc⟩ | ⟨o, before, after, -, ho, -, hc⟩
    · rw [Machine.kernelStep, hc]
      exact h
    · refine h.of_fewer ?_ ?_ hmem <;> rw [Machine.kernelStep, hc]
      · intro x hx
        rw [ho]
        exact SimulatedKernel.mem_of_mem_remaining hx
      · exact fun id hm => hm
  | _ => exact h.of_fewer (fun o ho => ho) (fun id hm => hm) hmem

end Machine.Backed

namespace SimulatedKernel

variable {k k' : SimulatedKernel}

/-- Closing an I/O context fails and leaves operations and records alone, or ends them all. -/
theorem destroy_cases {id : UInt64} {outcome : Except Errno Unit}
    (h : Kernel.destroy id k = (outcome, k')) :
    (∃ errno, outcome = .error errno ∧ k'.inFlight = k.inFlight ∧ k'.ready = k.ready ∧
      k'.contexts = k.contexts) ∨
    (outcome = .ok () ∧ k'.inFlight = [] ∧ k'.ready = []) := by
  change destroy id k = (outcome, k') at h
  unfold destroy at h
  split at h
  · cases h
    exact .inl ⟨_, rfl, rfl, rfl, rfl⟩
  · rcases answer_cases .destroy _ k with ⟨errno, failures, ha⟩ | ha <;> rw [ha] at h <;> cases h
    · exact .inl ⟨errno, rfl, rfl, rfl, rfl⟩
    · exact .inr ⟨rfl, rfl, rfl⟩

/-- Closing a doorbell leaves operations and records alone. -/
theorem close_steady {file : Int32} {outcome : Except Errno Unit}
    (h : Kernel.close file k = (outcome, k')) :
    k'.inFlight = k.inFlight ∧ k'.ready = k.ready ∧ k'.contexts = k.contexts := by
  change close file k = (outcome, k') at h
  unfold close at h
  split at h
  · cases h
    exact ⟨rfl, rfl, rfl⟩
  · rcases answer_cases .close _ k with ⟨errno, failures, ha⟩ | ha <;> rw [ha] at h <;> cases h <;>
      exact ⟨rfl, rfl, rfl⟩

end SimulatedKernel

namespace Engine

/-! ## No region without a buffer -/

section

variable {κ : Type} {l l' : Ledger} {e e' : Engine} {m m' : Machine κ}

/-- Every region that is allocated is that of a buffer. -/
def Tenanted (e : Engine) (m : Machine κ) : Prop :=
  ∀ region size, m.memory.length? region = some size → region ∈ e.endpoints.regions

theorem mem_regions_of_find? {s : Slot} {file : Int32} {b : Buffer}
    (h : e.endpoints.find? s = some (file, b)) : b.region.number ∈ e.endpoints.regions :=
  List.mem_map_of_mem (EndpointTable.mem_buffers_of_find? h)

theorem Sound.exists_find?_of_mem_regions (hs : Sound e) {region : Nat}
    (h : region ∈ e.endpoints.regions) :
    ∃ s file b, e.endpoints.find? s = some (file, b) ∧ b.region.number = region := by
  obtain ⟨b, hb, rfl⟩ := List.mem_map.1 h
  obtain ⟨s, file, hf⟩ := hs.exists_find? hb
  exact ⟨s, file, b, hf, rfl⟩

/-- Buffers keep their regions. -/
theorem Keeps.mem_regions (h : Keeps e e') (hs : Sound e) {region : Nat}
    (hm : region ∈ e.endpoints.regions) : region ∈ e'.endpoints.regions := by
  obtain ⟨s, file, b, hf, rfl⟩ := hs.exists_find?_of_mem_regions hm
  obtain ⟨b', hf', hr, -⟩ := h.find? s file b hf
  rw [← hr]
  exact mem_regions_of_find? hf'

/-- The regions of a new endpoint are those of its buffers. -/
theorem Equipped.mem_regions {index : Nat} {plan : EndpointPlan} {buffers : List Buffer}
    (h : Equipped index plan buffers e m e' m') (hs : Sound e) {j : Nat} (hj : j < plan.count) :
    m.memory.cells.length + j ∈ e'.endpoints.regions := by
  obtain ⟨-, hcount, hindex⟩ := h.count_le hs
  let s : Slot := ⟨.ofNat index, .ofNat j⟩
  have hse : s.endpoint.toNat = index := toNat_ofNat_of_le hindex
  have hsb : s.buffer.toNat = j := toNat_ofNat_of_le (by omega)
  obtain ⟨b, hb, hf⟩ := h.exists_new hse (by rw [hsb]; exact hj)
  have hr := (h.new hse hb).2.1
  rw [hsb] at hr
  have hm := mem_regions_of_find? hf
  rwa [hr] at hm

variable [Kernel κ]

theorem Tenanted.effect (h : Tenanted e m) (hs : Sound e) (heff : Effect l e m l' e' m') :
    Tenanted e' m' := by
  have hk := heff.keeps
  intro region size hl
  -- but for the regions of a new endpoint, what is allocated now was allocated before
  cases heff with
  | equipped hq =>
    rcases Memory.length?_append_cases hq.machine.cells hl with hl | ⟨j, hj, rfl⟩
    · exact hk.mem_regions hs (h region size hl)
    · exact hq.mem_regions hs hj
  | nothing => exact h region size hl
  | allocationFailed hg =>
    rw [Memory.length?_append_released hg.cells] at hl
    exact h region size hl
  | wrote hf hp => exact h region size ((Memory.length?_overwrite _ _).symm.trans hl)
  | rearmed hr =>
    rw [hr.machine] at hl
    exact hk.mem_regions hs (h region size hl)
  | submitFailed hf =>
    rw [hf.memory] at hl
    exact h region size hl
  | submitted hsub =>
    rw [hsub.memory] at hl
    exact hk.mem_regions hs (h region size hl)
  | pollFailed hp =>
    rw [hp.memory] at hl
    exact h region size hl
  | polled hp =>
    rw [hp.memory] at hl
    exact hk.mem_regions hs (h region size hl)

theorem Course.tenanted {env : Environment κ} (h : Course env l e m) : Tenanted e m := by
  induction h with
  | created hs h =>
    intro region size hl
    have hlt := Memory.lt_of_length? hl
    rw [(create_eq_ok h).memory, (env.blank _ hs).2] at hlt
    cases hlt
  | @called l e m call h ih => exact ih.effect h.sound (perform_effect h.sound call l m)
  | @passed l l' e m m' h hw ih =>
    intro region size hl
    obtain ⟨hd, -⟩ := env.drift l e m l' m' hw
    rw [Memory.length?_congr hd.shape] at hl
    exact ih region size hl

/-- The I/O context of an engine stays open throughout its run. -/
theorem Course.unclosed {env : Environment κ} (h : Course env l e m) : e.context.closed = false := by
  induction h with
  | created hs h => exact create_unclosed h
  | @called l e m call h ih =>
    rw [(perform_effect h.sound call l m).keeps.context]
    exact ih
  | passed h hw ih => exact ih

/-- **What is left when an engine is let go of**: if it leaks, every region of its endpoints, and otherwise
none at all. -/
theorem Course.released_or_leaked {env : Environment κ} (h : Course env l e m)
    {destroyed closed : Except Errno Unit} (hd : Dropped destroyed closed e m m') :
    if e.leaks destroyed then ∀ region ∈ e.endpoints.regions, m'.memory.isLive region
    else ∀ region, m'.memory.isLive region = false := by
  have hmem := hd.memory
  split
  · rename_i hleaks
    rw [if_pos hleaks] at hmem
    intro region hm
    obtain ⟨s, file, b, hf, rfl⟩ := h.sound.exists_find?_of_mem_regions hm
    rw [hmem, Memory.isLive_eq, h.housed.live s file b hf]; rfl
  · rename_i hleaks
    rw [if_neg hleaks] at hmem
    intro region
    rw [hmem, Memory.isLive_eq, Memory.length?_releaseAll]
    split
    · rfl
    · rename_i hn
      cases hl : m.memory.length? region with
      | none => rfl
      | some size => exact absurd (h.tenanted region size hl) hn

end

/-! ## Beside an honest kernel -/

variable {l : Ledger} {e : Engine} {m p : Machine SimulatedKernel}

theorem Course.accounted_of_honest (h : Course (.simulated KernelStep.IsHonest) l e m) :
    Accounted UInt32.size e m :=
  (h.mono fun _ hk => hk.isTruthful UInt32.size).accounted h.sound.endpointCount_le_size

/-- While the engine exists, the kernel transfers into its buffers. -/
theorem Course.backed (h : Course (.simulated KernelStep.IsHonest) l e m) : m.Backed := by
  intro o ho _
  have ha := h.accounted_of_honest
  obtain ⟨file, b, hf, -⟩ := ha.exists_find?_of_mem ho
  obtain ⟨d, hd⟩ := h.sound.descriptor o.slot file b hf
  have hlt := b.header_lt
  rw [(ha.operation o ho).2, EndpointTable.descriptorAt_of_find? hf, hd]
  refine ⟨_, b.region.size, rfl, h.housed.live o.slot file b hf, ?_⟩
  simp only [Buffer.transfer, Buffer.transferLength]
  omega

/-- Without a buffer in flight the kernel has no operation. -/
theorem Accounted.inFlight_eq_nil {count : Nat} (h : Accounted count e m)
    (h0 : e.endpoints.inFlight = 0) : m.kernel.inFlight = [] := by
  rw [List.eq_nil_iff_forall_not_mem]
  intro o ho
  obtain ⟨file, b, hf, hp⟩ := h.exists_find?_of_mem ho
  have hpos : 0 < e.endpoints.inFlight :=
    List.countP_pos_iff.2 ⟨b, EndpointTable.mem_buffers_of_find? hf, by simpa using hp⟩
  omega

/-- **At no point of a drop does the kernel lose memory that it may use.** -/
theorem Course.backed_of_dropPoint (h : Course (.simulated KernelStep.IsHonest) l e m)
    (hp : DropPoint e m p) : p.Backed := by
  rcases hp.cases h.unclosed with rfl | ⟨destroyed, k, hdestroy, hkernel, hmem⟩
  · exact h.backed
  have hops : p.kernel.inFlight = k.inFlight ∧ p.kernel.contexts = k.contexts := by
    rcases hkernel with rfl | ⟨closed, hclose⟩
    · exact ⟨rfl, rfl⟩
    · obtain ⟨hops, -, hcontexts⟩ := SimulatedKernel.close_steady hclose
      exact ⟨hops, hcontexts⟩
  rcases SimulatedKernel.destroy_cases hdestroy with ⟨errno, rfl, hkept, -, hcontexts⟩ | ⟨rfl, hnone, -⟩
  · rcases hmem with hmem | ⟨hleaks, -⟩
    · refine h.backed.of_fewer ?_ ?_ (fun region size hl => by rw [hmem]; exact hl)
      · intro o ho
        rwa [hops.1, hkept] at ho
      · intro id hm
        rwa [hops.2, hcontexts] at hm
    · -- the engine does not leak although the kernel refused: it has nothing in flight
      have h0 : e.endpoints.inFlight = 0 := by simpa [leaks] using hleaks
      exact .of_idle (by rw [hops.1, hkept, h.accounted_of_honest.inFlight_eq_nil h0])
  · exact .of_idle (by rw [hops.1, hnone])

/-! ## Creations that fail -/

/-- A creation that the kernel cut short starts no operation. -/
theorem CreateFailed.inFlight_eq {maxEvents : Nat} {errno : Errno} {m m' : Machine SimulatedKernel}
    (h : CreateFailed maxEvents errno m m') (h0 : m.kernel.inFlight = []) : m'.kernel.inFlight = [] := by
  have hsetup := SimulatedKernel.setup_untouched (.ofNat maxEvents) m.kernel
  cases h with
  | refused hk hmem hcalls =>
    rw [hk] at hsetup
    exact hsetup.inFlight.trans h0
  | @withdrawn id destroyed k k' hk hk' hdestroy hmem hcalls hlogged =>
    have heventfd := SimulatedKernel.eventfd_untouched k
    rw [hk] at hsetup
    rw [hk'] at heventfd
    rcases SimulatedKernel.destroy_cases hdestroy with ⟨errno, -, hkept, -, -⟩ | ⟨-, hnone, -⟩
    · rw [hkept, heventfd.inFlight, hsetup.inFlight, h0]
    · exact hnone

theorem CreateFailed.memory_eq {κ : Type} [Kernel κ] {maxEvents : Nat} {errno : Errno}
    {m m' : Machine κ} (h : CreateFailed maxEvents errno m m') : m'.memory = m.memory := by
  cases h with
  | refused hk hmem hcalls => exact hmem
  | withdrawn hsetup heventfd hdestroy hmem hcalls hlogged => exact hmem

/-- Equipping endpoints puts nothing in flight. -/
theorem equipAll_not_inFlight {κ : Type} [Kernel κ] {e : Engine} (hs : Sound e)
    (h : ∀ s, e.endpoints.phase? s ≠ some .inFlight) (index : Nat) (plans : List EndpointPlan)
    (m : Machine κ) (s : Slot) :
    (Engine.equipAll index plans e m).2.1.endpoints.phase? s ≠ some .inFlight := by
  have hall := equipAll_induction (P := fun e (_ : Machine κ) => Sound e ∧
    ∀ s, e.endpoints.phase? s ≠ some .inFlight) (m := m) ?_ ⟨hs, h⟩ index plans
  · exact hall.2 s
  rintro index plan e m ⟨hs, h⟩
  rcases equip_cases hs index plan m with ⟨err, k, m', he, -⟩ | ⟨buffers, e', m', he, hq⟩
  · rw [he]
    exact ⟨hs, h⟩
  · rw [he]
    refine ⟨hq.sound hs, fun s => ?_⟩
    rw [hq.phase?_eq]
    split
    · simp
    · exact h s

theorem Sound.inFlight_eq_zero {e : Engine} (hs : Sound e)
    (h : ∀ s, e.endpoints.phase? s ≠ some .inFlight) : e.endpoints.inFlight = 0 := by
  rw [EndpointTable.inFlight, List.countP_eq_zero]
  intro b hb hp
  obtain ⟨s, file, hf⟩ := hs.exists_find? hb
  exact h s (by rw [EndpointTable.phase?_of_find? hf]; simpa using hp)

end Engine

namespace Creation

variable {κ : Type} [Kernel κ] {creation : Creation} {m m' : Machine κ} {e : Engine}
  {result : Except Fault Unit}

/-- A request that was granted is a course, however equipping the endpoints ended. -/
theorem Granted.course {env : Environment κ} (hs : env.start m) (h : creation.Granted m result e m') :
    ∃ l, Engine.Course env l e m' := by
  obtain @⟨size, e₀, _, m₀, _, _, hp, hc, ha⟩ := h
  obtain ⟨l, hl⟩ := (Engine.Course.created hs hc).exists_equipAll 0 creation.plans
  rw [ha] at hl
  exact ⟨l, hl⟩

/-- An engine whose endpoints are not all equipped has nothing in flight. -/
theorem Granted.inFlight_eq_zero (h : creation.Granted m result e m') (hs : e.Sound) :
    e.endpoints.inFlight = 0 := by
  obtain @⟨size, e₀, _, m₀, _, _, hp, hc, ha⟩ := h
  have hcreated := Engine.create_eq_ok hc
  have hnot := Engine.equipAll_not_inFlight hcreated.sound
    (fun s => by rw [hcreated.phase?_eq_none]; simp) 0 creation.plans m₀
  rw [ha] at hnot
  exact hs.inFlight_eq_zero hnot

/-- An engine that was granted and then let go of leaves nothing, since it had nothing in flight. -/
theorem Granted.released {env : Environment κ} (hs : env.start m) {f : Fault}
    (h : creation.Granted m (.error f) e m') (region : Nat) : (e.drop m').memory.isLive region = false := by
  obtain ⟨l, hc⟩ := h.course hs
  obtain ⟨destroyed, closed, hd⟩ := Engine.drop_spec hc.unclosed m'
  have hkeeps : e.leaks destroyed = false := by
    cases destroyed <;> simp [Engine.leaks, h.inFlight_eq_zero hc.sound]
  have hall := hc.released_or_leaked hd
  rw [hkeeps, if_neg Bool.false_ne_true] at hall
  exact hall region

/-- A request for an engine that fails leaves no region allocated. -/
theorem released_of_none {env : Environment κ} (hs : env.start m) (creation : Creation)
    (hn : ((⟨none, m⟩ : Session κ).perform creation.command).2.engine = none) (region : Nat) :
    ((⟨none, m⟩ : Session κ).perform creation.command).2.machine.memory.isLive region = false := by
  have hblank : m.memory.isLive region = false := by
    rw [Memory.isLive, (env.blank m hs).2]
    rfl
  rcases creation.perform_cases m with
    ⟨err, -, he⟩ | ⟨size, errno, m', -, hf, he⟩ | ⟨result, e, m', hg⟩
  · rwa [he]
  · rw [he, hf.memory_eq]
    exact hblank
  · cases result with
    | error f =>
      rw [hg.perform_error]
      exact hg.released hs region
    | ok u =>
      rw [hg.perform_ok] at hn
      cases hn

/-- Beside an honest kernel, a request for an engine leaves every operation backed. -/
theorem perform_backed {m : Machine SimulatedKernel} (hp : Prepared KernelStep.IsHonest m)
    (creation : Creation) :
    ((⟨none, m⟩ : Session SimulatedKernel).perform creation.command).2.machine.Backed := by
  have hidle : m.kernel.inFlight = [] :=
    (Engine.held_of_prepared (hp.mono fun _ hk => hk.isTruthful UInt32.size)).1
  rcases creation.perform_cases m with
    ⟨err, -, he⟩ | ⟨size, errno, m', -, hf, he⟩ | ⟨result, e, m', hg⟩
  · rw [he]
    exact .of_idle hidle
  · rw [he]
    exact .of_idle (hf.inFlight_eq hidle)
  · have hstart : (Environment.simulated KernelStep.IsHonest).start m := hp
    obtain ⟨l, hc⟩ := hg.course hstart
    cases result with
    | error f =>
      rw [hg.perform_error]
      exact hc.backed_of_dropPoint (.last e m')
    | ok u =>
      rw [hg.perform_ok]
      exact hc.backed

end Creation

/-! ## Runs -/

/-- The call `c` lets go of the engine `e`, which is beside the machine `m` by then. -/
inductive Session.LetsGo {κ : Type} [Kernel κ] : Session κ → Command → Engine → Machine κ → Prop
  | dropped {e : Engine} {m : Machine κ} : LetsGo ⟨some e, m⟩ .drop e m
  /-- The engine was requested with its endpoints, and one of them cannot be equipped. -/
  | abandoned {creation : Creation} {f : Fault} {e : Engine} {m m' : Machine κ}
    (h : creation.Granted m (.error f) e m') : LetsGo ⟨none, m⟩ creation.command e m'

theorem Session.LetsGo.perform_eq {κ : Type} [Kernel κ] {s : Session κ} {c : Command} {e : Engine}
    {m : Machine κ} (h : s.LetsGo c e m) : (s.perform c).2 = ⟨none, e.drop m⟩ := by
  cases h with
  | dropped => rfl
  | abandoned h => rw [h.perform_error]

theorem Session.eq_of_engine {κ : Type} {s : Session κ} {engine : Option Engine} (h : s.engine = engine) :
    s = ⟨engine, s.machine⟩ := by
  cases h
  rfl

/-- A command that requests no engine does nothing without one, lets go of the engine or is a call on it. -/
theorem Session.perform_cases {κ : Type} [Kernel κ] (s : Session κ) {c : Command}
    (hc : ¬ (Step.command c).creates) :
    (s.engine = none ∧ (s.perform c).2 = s) ∨
    (∃ e, s.engine = some e ∧ c = .drop ∧ (s.perform c).2 = ⟨none, e.drop s.machine⟩) ∨
    (∃ e call, s.engine = some e ∧ c = .call call ∧
      (s.perform c).2 = ⟨some (e.perform call s.machine).2.1, (e.perform call s.machine).2.2⟩) := by
  cases he : s.engine with
  | none =>
    refine .inl ⟨rfl, ?_⟩
    cases c with
    | create endpoints maxEvents => exact absurd rfl hc
    | createEquipped plans => exact absurd rfl hc
    | drop => simp only [Session.perform, Session.dropEngine, he]
    | call call => simp only [Session.perform, he]
  | some e =>
    rw [Session.eq_of_engine he]
    cases c with
    | create endpoints maxEvents => exact absurd rfl hc
    | createEquipped plans => exact absurd rfl hc
    | drop => exact .inr (.inl ⟨e, rfl, rfl, rfl⟩)
    | call call => exact .inr (.inr ⟨e, call, rfl, rfl, rfl⟩)

theorem Creation.creates (creation : Creation) : (Step.command creation.command).creates := by
  cases creation <;> rfl

theorem Step.exists_creation {s : Step} (h : s.creates) :
    ∃ creation : Creation, s = .command creation.command := by
  cases s with
  | kernel k => cases h
  | command c =>
    cases c with
    | create endpoints maxEvents => exact ⟨.bare endpoints maxEvents, rfl⟩
    | createEquipped plans => exact ⟨.equipped plans, rfl⟩
    | drop => cases h
    | call call => cases h

namespace OneEngine

variable {allowed : KernelStep → Prop} {steps : List Step}

/-- The one request for an engine meets a machine on which there was none. -/
theorem prepared_of_creates {s : Step} (h : OneEngine allowed (steps ++ [s])) (hs : s.creates) :
    (Watched.run steps).session.engine = none ∧ Prepared allowed (Watched.run steps).session.machine := by
  have hone := h.creations
  rw [List.countP_append, List.countP_singleton, if_pos hs] at hone
  rcases h.of_append.stages with ⟨-, he, hp⟩ | ⟨hz, -⟩ | ⟨hz, -⟩
  · exact ⟨he, hp⟩
  · omega
  · omega

/-- An engine that is let go of had a course until then. -/
theorem course_of_letsGo {c : Command} {e : Engine} {m : Machine SimulatedKernel}
    (h : OneEngine allowed (steps ++ [.command c])) (hl : (Watched.run steps).session.LetsGo c e m) :
    ∃ l, Engine.Course (.simulated allowed) l e m := by
  generalize hs : (Watched.run steps).session = s at hl
  cases hl with
  | dropped =>
    have hc := h.of_append.course (e := e) (by rw [hs])
    rw [hs] at hc
    exact ⟨_, hc⟩
  | @abandoned creation f _ m₀ _ hg =>
    obtain ⟨-, hp⟩ := h.prepared_of_creates creation.creates
    rw [hs] at hp
    exact hg.course hp

/-- In every state of a run the operations are backed. -/
theorem backed (h : OneEngine KernelStep.IsHonest steps) : (Watched.run steps).session.machine.Backed := by
  induction steps using List.reverseRecOn with
  | nil => exact .of_idle rfl
  | append_singleton steps s ih =>
    have ih := ih h.of_append
    rw [Watched.run_append_singleton]
    cases s with
    | kernel k => exact ih.kernelStep _ k
    | command c =>
      show ((Watched.run steps).session.perform c).2.machine.Backed
      by_cases hs : (Step.command c).creates
      · obtain ⟨hn, hp⟩ := h.prepared_of_creates hs
        obtain ⟨creation, hc⟩ := Step.exists_creation hs
        cases hc
        rw [Session.eq_of_engine hn]
        exact creation.perform_backed hp
      · rcases (Watched.run steps).session.perform_cases hs with
          ⟨-, hp⟩ | ⟨e, he, -, hp⟩ | ⟨e, call, he, -, hp⟩ <;> rw [hp]
        · exact ih
        · exact (h.of_append.course he).backed_of_dropPoint (.last e _)
        · exact ((h.of_append.course he).called call).backed

end OneEngine

/-- **Memory is never released under the kernel, and leaked only if it must be.** In a run of one engine
beside an honest kernel every operation transfers within a region that is allocated. So it is at every point
on the way out of an engine that is let go of. What remains of such an engine is nothing, unless the kernel
kept the I/O context while buffers were in flight: then every region of its endpoints remains. A request for
an engine that fails leaves nothing. -/
theorem OneEngine.memory_outlives_kernel {steps : List Step} (h : OneEngine KernelStep.IsHonest steps) :
    let s := Session.run steps (.boot .fresh)
    s.machine.Backed ∧
    (∀ before c e m, steps = before ++ [.command c] →
      (Session.run before (.boot .fresh)).LetsGo c e m →
        s = ⟨none, e.drop m⟩ ∧ (∀ p, Engine.DropPoint e m p → p.Backed) ∧
        ∃ destroyed closed, Engine.Dropped destroyed closed e m (e.drop m) ∧
          if e.leaks destroyed then ∀ region ∈ e.endpoints.regions, (e.drop m).memory.isLive region
          else ∀ region, (e.drop m).memory.isLive region = false) ∧
    (∀ before (creation : Creation), steps = before ++ [.command creation.command] → s.engine = none →
      ∀ region, s.machine.memory.isLive region = false) := by
  rw [← Watched.session_run]
  refine ⟨h.backed, ?_, ?_⟩
  · rintro before c e m rfl hl
    rw [← Watched.session_run] at hl
    obtain ⟨l, hc⟩ := h.course_of_letsGo hl
    obtain ⟨destroyed, closed, hd⟩ := Engine.drop_spec hc.unclosed m
    refine ⟨?_, fun p hp => hc.backed_of_dropPoint hp, destroyed, closed, hd, hc.released_or_leaked hd⟩
    rw [Watched.run_append_singleton]
    exact hl.perform_eq
  · rintro before creation rfl hn region
    obtain ⟨he, hp⟩ := h.prepared_of_creates creation.creates
    have hstart : (Environment.simulated KernelStep.IsHonest).start _ := hp
    rw [Watched.run_append_singleton] at hn ⊢
    change ((Watched.run before).session.perform creation.command).2.engine = none at hn
    show ((Watched.run before).session.perform creation.command).2.machine.memory.isLive region = false
    rw [Session.eq_of_engine he] at hn ⊢
    exact creation.released_of_none hstart hn region

/-- Two buffers are in flight when the kernel refuses to close the I/O context: both regions remain. -/
theorem OneEngine.refusal_leaks : ∃ (steps before : List Step) (e : Engine) (m : Machine SimulatedKernel)
    (destroyed : Except Errno Unit), OneEngine KernelStep.IsHonest steps ∧
      steps = before ++ [.command .drop] ∧ (Session.run before (.boot .fresh)).LetsGo .drop e m ∧
      e.endpoints.regions = [0, 1] ∧ e.leaks destroyed ∧ (e.drop m).Backed ∧
      (e.drop m).kernel.inFlight.length = 2 ∧ ∀ region ∈ [0, 1], (e.drop m).memory.isLive region := by
  let before : List Step := [.command (.createEquipped [⟨7, .read, 2, 4, 1⟩]), .command (.call .submit),
    .kernel (.fail .destroy .invalid)]
  have h : OneEngine KernelStep.IsHonest (before ++ [.command .drop]) := by decide
  have hregions : (Session.run before (.boot .fresh)).engine.map (·.endpoints.regions) = some [0, 1] := by
    decide +kernel
  have hops : (Session.run (before ++ [.command .drop]) (.boot .fresh)).machine.kernel.inFlight.length =
      2 := by decide +kernel
  have hlive : (Session.run (before ++ [.command .drop]) (.boot .fresh)).machine.memory.isLive 0 = true := by
    decide +kernel
  obtain ⟨e, he, hregions⟩ := Option.map_eq_some_iff.1 hregions
  have hl : (Session.run before (.boot .fresh)).LetsGo .drop e
      (Session.run before (.boot .fresh)).machine := by
    rw [Session.eq_of_engine he]
    exact .dropped
  obtain ⟨hbacked, hgo, -⟩ := OneEngine.memory_outlives_kernel h
  obtain ⟨hs, -, destroyed, closed, -, hleft⟩ := hgo before .drop e _ rfl hl
  rw [hs] at hbacked hops hlive
  split at hleft
  · rename_i hleaks
    rw [hregions] at hleft
    exact ⟨_, before, e, _, destroyed, h, rfl, hl, hregions, hleaks, hbacked, hops, hleft⟩
  · rw [hleft 0] at hlive
    cases hlive

end Gadget
