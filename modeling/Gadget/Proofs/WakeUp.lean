import Gadget.Proofs.Placement
/-!
# What the doorbell announces

Every record that becomes ready counts the doorbell up, and a poll first reads the count away and then
collects the records. As long as collections succeed, the count is exactly the number of records that
wait (`Rings.counter_eq`), and a poll that no failure meets delivers them all (`Rings.poll_eq`). A
collection that the kernel refuses comes too late: the count is gone, the records stay, and nothing
announces them until another record arrives.
-/
namespace Gadget

/-! ## The latest collection -/

/-- The outcome of a collection of records. -/
def Call.collection? : Call → Option (Except Errno Nat)
  | .getEvents _ _ _ outcome => some outcome
  | _ => none

/-- The outcome of the latest collection. -/
def Machine.collection? {κ : Type} (m : Machine κ) : Option (Except Errno Nat) :=
  m.calls.reverse.findSome? Call.collection?

/-- Whether the kernel refused the latest collection. -/
def Machine.CollectionRefused {κ : Type} (m : Machine κ) : Prop :=
  ∃ errno, m.collection? = some (.error errno)

namespace Machine

variable {κ : Type} {m m' : Machine κ}

theorem collection?_congr (h : m'.calls = m.calls) : m'.collection? = m.collection? := by
  rw [collection?, collection?, h]

theorem collection?_append {made : List Call} (h : m'.calls = m.calls ++ made) :
    m'.collection? = (made.reverse.findSome? Call.collection?).or m.collection? := by
  rw [collection?, h, List.reverse_append, List.findSome?_append]; rfl

end Machine

namespace SimulatedKernel

variable {k k' : SimulatedKernel}

/-! ## What the calls do to the counter -/

/-- The open handles are the same, and the only new reads to cut short are short. -/
structure Steady (k k' : SimulatedKernel) : Prop where
  contexts : k'.contexts = k.contexts
  eventfds : k'.eventfds = k.eventfds
  shortReads : ∀ n ∈ k'.shortReads, n ∈ k.shortReads ∨ n < 8

theorem Steady.trans {k₁ k₂ k₃ : SimulatedKernel} (h : Steady k₁ k₂) (h' : Steady k₂ k₃) :
    Steady k₁ k₃ where
  contexts := h'.contexts.trans h.contexts
  eventfds := h'.eventfds.trans h.eventfds
  shortReads n hn := (h'.shortReads n hn).elim (h.shortReads n) .inr

/-- The counter and the records are as before as well. -/
structure Silent (k k' : SimulatedKernel) : Prop extends Steady k k' where
  counter : k'.counter = k.counter
  ready : k'.ready = k.ready

theorem Silent.refl (k : SimulatedKernel) : Silent k k := ⟨⟨rfl, rfl, fun _ h => .inl h⟩, rfl, rfl⟩

theorem Silent.of_eq (h : k' = k) : Silent k k' := h ▸ .refl k

theorem submit_silent {id : UInt64} {batch : List Descriptor} {outcome : Except Errno Nat}
    (h : Kernel.submit id batch k = (outcome, k')) : Silent k k' := by
  change submit id batch k = (outcome, k') at h
  simp only [submit] at h
  split at h
  · cases h
    exact ⟨⟨rfl, rfl, fun _ h => .inl h⟩, rfl, rfl⟩
  · rcases answer_cases .submit _ { k with submissions := k.submissions + 1 } with
      ⟨errno, failures, ha⟩ | ha <;>
    · rw [ha] at h
      cases h
      exact ⟨⟨rfl, rfl, fun _ h => .inl h⟩, rfl, rfl⟩

/-- A collection leaves the counter alone. -/
theorem getEvents_steady {id : UInt64} {minimum room : Nat} {outcome : Except Errno (Nat × List Record)}
    (h : Kernel.getEvents id minimum room k = (outcome, k')) :
    Steady k k' ∧ k'.counter = k.counter := by
  change getEvents id minimum room k = (outcome, k') at h
  unfold getEvents at h
  split at h
  · cases h
    exact ⟨⟨rfl, rfl, fun _ h => .inl h⟩, rfl⟩
  · rcases answer_cases .getEvents _ k with ⟨errno, failures, ha⟩ | ha <;>
    · rw [ha] at h
      cases h
      exact ⟨⟨rfl, rfl, fun _ h => .inl h⟩, rfl⟩

/-- A read fails, is cut short, or reads the counter away. -/
theorem read_cases {file : Int32} {outcome : Except Errno (Nat × UInt64)}
    (h : Kernel.read file k = (outcome, k')) :
    (∃ errno, outcome = .error errno ∧ Silent k k') ∨
    (∃ length, outcome = .ok (length, 0) ∧ length ∈ k.shortReads ∧ Silent k k') ∨
    (outcome = .ok (8, k.counter) ∧ k.counter ≠ 0 ∧ Steady k k' ∧ k'.counter = 0 ∧
      k'.ready = k.ready) := by
  change read file k = (outcome, k') at h
  unfold read at h
  split at h
  · cases h
    exact .inl ⟨_, rfl, .refl k⟩
  · rcases answer_cases .read _ k with ⟨errno, failures, ha⟩ | ha <;> rw [ha] at h
    · cases h
      exact .inl ⟨errno, rfl, ⟨rfl, rfl, fun _ h => .inl h⟩, rfl, rfl⟩
    · split at h
      · rename_i length shortReads hs
        cases h
        refine .inr (.inl ⟨length, rfl, by simp [hs], ⟨rfl, rfl, fun n hn => ?_⟩, rfl, rfl⟩)
        rw [hs]
        exact .inl (List.mem_cons_of_mem length hn)
      · split at h <;> cases h
        · exact .inl ⟨_, rfl, .refl k⟩
        · rename_i hne
          exact .inr (.inr ⟨rfl, hne, ⟨rfl, rfl, fun _ h => .inl h⟩, rfl, rfl⟩)

/-- If short reads are short, a read of eight bytes reads away a counter that is not zero. -/
theorem read_eight (hshort : ∀ n ∈ k.shortReads, n < 8) {file : Int32} {signaled : UInt64}
    (h : Kernel.read file k = (.ok (8, signaled), k')) :
    k.counter ≠ 0 ∧ Steady k k' ∧ k'.counter = 0 ∧ k'.ready = k.ready := by
  rcases read_cases h with ⟨errno, he, -⟩ | ⟨length, he, hm, -⟩ | ⟨-, hne, hk⟩
  · cases he
  · cases he
    exact absurd (hshort 8 hm) (Nat.lt_irrefl 8)
  · exact ⟨hne, hk⟩

/-- A read that fails, or brings another number of bytes, changes nothing that counts. -/
theorem read_silent {file : Int32} {outcome : Except Errno (Nat × UInt64)}
    (h : Kernel.read file k = (outcome, k')) (h8 : ∀ signaled, outcome ≠ .ok (8, signaled)) :
    Silent k k' := by
  rcases read_cases h with ⟨errno, -, hk⟩ | ⟨length, -, -, hk⟩ | ⟨he, -⟩
  · exact hk
  · exact hk
  · exact absurd he (h8 _)

/-! ## Calls that nothing disturbs -/

theorem takeFailure_eq_none {kind : CallKind} {failures : List (CallKind × Errno)}
    (h : ∀ f ∈ failures, f.1 ≠ kind) : takeFailure kind failures = none := by
  induction failures with
  | nil => rfl
  | cons f failures ih =>
    rw [takeFailure, if_neg (h f (by simp)), ih fun g hg => h g (by simp [hg])]; rfl

theorem answer_undisturbed {α : Type} {kind : CallKind} (h : ∀ f ∈ k.failures, f.1 ≠ kind)
    (otherwise : SimulatedKernel → Except Errno α × SimulatedKernel) :
    answer kind otherwise k = otherwise k := by
  rw [answer, takeFailure_eq_none h]

theorem read_undisturbed {file : Int32} (hfile : file ∈ k.eventfds) (hcounter : k.counter ≠ 0)
    (hf : ∀ f ∈ k.failures, f.1 ≠ .read) (hs : k.shortReads = []) :
    Kernel.read file k = (.ok (8, k.counter), { k with counter := 0 }) := by
  show read file k = _
  simp only [read, hfile, not_true_eq_false, if_false, answer_undisturbed hf, hs, hcounter]

theorem getEvents_undisturbed {id : UInt64} (hid : id ∈ k.contexts)
    (hf : ∀ f ∈ k.failures, f.1 ≠ .getEvents) (hr : k.eventReports = []) (minimum room : Nat) :
    Kernel.getEvents id minimum room k =
      (.ok ((k.ready.take room).length, k.ready.take room), { k with ready := k.ready.drop room }) := by
  show getEvents id minimum room k = _
  simp only [getEvents, hid, not_true_eq_false, if_false, answer_undisturbed hf, hr,
    List.head?_nil, Option.getD_none, List.tail_nil]

/-! ## New handles -/

theorem setup_ok {maxEvents : UInt32} {id : UInt64} (h : Kernel.setup maxEvents k = (.ok id, k')) :
    k' = { k with contexts := k.contexts ++ [id], nextContext := id + 1 } := by
  change setup maxEvents k = (.ok id, k') at h
  unfold setup at h
  rcases answer_cases .setup _ k with ⟨errno, failures, ha⟩ | ha <;> rw [ha] at h <;> cases h
  rfl

theorem eventfd_ok {file : Int32} (h : Kernel.eventfd k = (.ok file, k')) :
    k' = { k with eventfds := k.eventfds ++ [file], nextEventfd := file + 1 } := by
  change eventfd k = (.ok file, k') at h
  unfold eventfd at h
  rcases answer_cases .eventfd _ k with ⟨errno, failures, ha⟩ | ha <;> rw [ha] at h <;> cases h
  rfl

/-! ## Records -/

/-- How many operations the kernel has accepted whose records were not collected. -/
def stock (k : SimulatedKernel) : Nat := k.inFlight.length + k.ready.length

theorem toNat_counter_deliver (h : k.counter.toNat + 1 < UInt64.size) (r : Record) :
    (k.deliver r).counter.toNat = k.counter.toNat + 1 := by
  rw [deliver, UInt64.toNat_add, UInt64.toNat_one]
  exact Nat.mod_eq_of_lt h

end SimulatedKernel

/-- A step of a genuine kernel is silent, or an operation completes. -/
theorem Machine.kernelStep_silent {step : KernelStep} (h : step.IsGenuine) (owner : Option UInt64)
    (m : Machine SimulatedKernel) :
    SimulatedKernel.Silent m.kernel (m.kernelStep owner step).2.kernel ∨
    ∃ o rest bytes result, o ∈ m.kernel.inFlight ∧
      (m.kernelStep owner step).2 = m.afterCompletion owner o rest bytes result := by
  cases step with
  | reportSubmit n => exact h.elim
  | reportEvents n => exact h.elim
  | inject tag result => exact h.elim
  | fail kind errno => exact .inl ⟨⟨rfl, rfl, fun _ h => .inl h⟩, rfl, rfl⟩
  | limitSubmit n => exact .inl ⟨⟨rfl, rfl, fun _ h => .inl h⟩, rfl, rfl⟩
  | limitMemory bytes => exact .inl ⟨⟨rfl, rfl, fun _ h => .inl h⟩, rfl, rfl⟩
  | refuse purpose earlier => exact .inl ⟨⟨rfl, rfl, fun _ h => .inl h⟩, rfl, rfl⟩
  | shortRead length =>
    refine .inl ⟨⟨rfl, rfl, fun n hn => ?_⟩, rfl, rfl⟩
    rcases List.mem_append.1 hn with hn | hn
    · exact .inl hn
    · rw [List.mem_singleton.1 hn]
      exact .inr h
  | complete slot bytes result =>
    rcases complete_cases owner slot bytes result m with ⟨err, hc⟩ | ⟨o, before, after, -, ho, -, hc⟩ <;>
      rw [kernelStep, hc]
    · exact .inl (.refl _)
    · exact .inr ⟨o, before ++ after, bytes, result, by simp [ho], rfl⟩

namespace Engine

variable {l l' : Ledger} {e e' : Engine} {m m' : Machine SimulatedKernel}

/-- What the kernel has in stock are buffers of the engine, so the records fit the record array even when
every operation has completed. -/
theorem Accounted.stock_le (h : Accounted UInt32.size e m) (hs : Sound e) :
    m.kernel.stock ≤ e.maxEvents := by
  have hle := EndpointTable.length_le_of_found (t := e.endpoints) h.nodup ?_
  · rw [SimulatedKernel.held, m.kernel.waiting_all, List.length_append, List.length_map,
      List.length_map, ← hs.owned_eq] at hle
    exact Nat.le_trans hle hs.owned_le
  · intro s hm
    obtain ⟨file, b, hf, -⟩ := EndpointTable.phase?_eq_some_iff.1 ((h.mem_held s).1 hm)
    rw [hf]; rfl

theorem Accounted.length_ready_le (h : Accounted UInt32.size e m) (hs : Sound e) :
    m.kernel.ready.length ≤ e.maxEvents := by
  have := h.stock_le hs
  rw [SimulatedKernel.stock] at this
  omega

/-- A poll that collects takes everything that waits, since one collection has room for it all. -/
theorem Accounted.ready_of_polled {received : Nat} {written valid : List Record}
    {refused : List (Record × TransferError)} (h : Accounted UInt32.size e m) (hs : Sound e)
    (hp : Polled received written valid refused e m e' m') :
    m.kernel.ready = valid ∧ received = valid.length ∧ m'.kernel.ready = [] := by
  obtain ⟨signaled, k, hread, hget, -, -⟩ := hp.kernel
  have hu := SimulatedKernel.read_untouched e.doorbell.file m.kernel
  rw [hread] at hu
  obtain ⟨hwritten, hreceived, -, hdrop, -, -⟩ :=
    SimulatedKernel.getEvents_ok (hu.eventReports.trans h.trueCounts.2) hget
  rw [hu.ready] at hwritten hdrop
  have hroom := h.length_ready_le hs
  have hempty : m'.kernel.ready = [] := hdrop.trans (List.drop_eq_nil_iff.2 hroom)
  obtain ⟨hwait, -⟩ := h.kernel_of_polled hs.endpointCount_le_size hp
  rw [SimulatedKernel.waiting_all, SimulatedKernel.waiting_all, hempty, List.append_nil] at hwait
  refine ⟨hwait, ?_, hempty⟩
  rw [hreceived, hwritten, List.take_of_length_le hroom, hwait]

/-- The engine's handles are open, and the counter counts the records that wait. -/
structure Rings (e : Engine) (m : Machine SimulatedKernel) : Prop where
  alive : e.context.id ∈ m.kernel.contexts ∧ e.doorbell.file ∈ m.kernel.eventfds
  short : ∀ n ∈ m.kernel.shortReads, n < 8
  counter_le : m.kernel.counter.toNat ≤ m.kernel.ready.length
  /-- A refused collection lost count. -/
  counter_eq : ¬ m.CollectionRefused → m.kernel.counter.toNat = m.kernel.ready.length

namespace Rings

theorem alive_of_steady (h : Rings e m) (hk : Keeps e e')
    (hq : SimulatedKernel.Steady m.kernel m'.kernel) :
    (e'.context.id ∈ m'.kernel.contexts ∧ e'.doorbell.file ∈ m'.kernel.eventfds) ∧
      ∀ n ∈ m'.kernel.shortReads, n < 8 := by
  rw [hq.contexts, hq.eventfds, hk.context, hk.doorbell]
  exact ⟨h.alive, fun n hn => (hq.shortReads n hn).elim (h.short n) id⟩

theorem of_silent (h : Rings e m) (hk : Keeps e e')
    (hq : SimulatedKernel.Silent m.kernel m'.kernel) (hc : m'.collection? = m.collection?) :
    Rings e' m' := by
  obtain ⟨halive, hshort⟩ := h.alive_of_steady hk hq.toSteady
  refine ⟨halive, hshort, ?_, ?_⟩ <;> rw [hq.counter, hq.ready]
  · exact h.counter_le
  · rw [Machine.CollectionRefused, hc]
    exact h.counter_eq

theorem of_pollFailed {errno : Errno} (h : Rings e m) (hp : PollFailed errno e m m')
    (hk : Keeps e e') : Rings e' m' := by
  rcases hp.kernel with ⟨hread, hc⟩ | ⟨length, signaled, hread, h8, -, hc⟩ | ⟨signaled, k, hread, hget, hc⟩
  · refine h.of_silent hk (SimulatedKernel.read_silent hread (by simp)) ?_
    rw [Machine.collection?_append hc]; rfl
  · refine h.of_silent hk (SimulatedKernel.read_silent hread (by simp [h8])) ?_
    rw [Machine.collection?_append hc]; rfl
  · -- the counter was read away and the records were not collected
    obtain ⟨-, hsteady, hzero, -⟩ := SimulatedKernel.read_eight h.short hread
    obtain ⟨hsteady', hcounter⟩ := SimulatedKernel.getEvents_steady hget
    obtain ⟨halive, hshort⟩ := h.alive_of_steady hk (hsteady.trans hsteady')
    refine ⟨halive, hshort, ?_, fun hn => absurd ?_ hn⟩
    · rw [hcounter, hzero]
      exact Nat.zero_le _
    · exact ⟨errno, by rw [Machine.collection?_append hc]; rfl⟩

/-- A poll that collects takes everything that waits, and its count. -/
theorem of_polled {received : Nat} {written valid : List Record}
    {refused : List (Record × TransferError)} (h : Rings e m) (ha : Accounted UInt32.size e m)
    (hs : Sound e) (hp : Polled received written valid refused e m e' m') :
    Rings e' m' ∧ m'.kernel.ready = [] := by
  obtain ⟨signaled, k, hread, hget, hc, -⟩ := hp.kernel
  obtain ⟨-, hsteady, hzero, -⟩ := SimulatedKernel.read_eight h.short hread
  obtain ⟨hsteady', hcounter⟩ := SimulatedKernel.getEvents_steady hget
  obtain ⟨-, -, hempty⟩ := ha.ready_of_polled hs hp
  obtain ⟨halive, hshort⟩ := h.alive_of_steady hp.keeps (hsteady.trans hsteady')
  have hcount : m'.kernel.counter.toNat = m'.kernel.ready.length := by
    rw [hcounter, hzero, hempty]; rfl
  exact ⟨⟨halive, hshort, Nat.le_of_eq hcount, fun _ => hcount⟩, hempty⟩

theorem effect (h : Rings e m) (ha : Accounted UInt32.size e m) (hs : Sound e)
    (heff : Effect l e m l' e' m') : Rings e' m' := by
  have hk := heff.keeps
  cases heff with
  | nothing => exact h
  | allocationFailed hg =>
    exact h.of_silent hk (.of_eq hg.kernel) (Machine.collection?_congr hg.calls)
  | equipped hq =>
    exact h.of_silent hk (.of_eq hq.machine.kernel) (Machine.collection?_congr hq.machine.calls)
  | wrote hf hp => exact h.of_silent hk (.refl _) rfl
  | rearmed hr =>
    rw [hr.machine]
    exact h.of_silent hk (.refl _) rfl
  | submitFailed hf =>
    refine h.of_silent hk (SimulatedKernel.submit_silent hf.kernel) ?_
    rw [Machine.collection?_append hf.calls]; rfl
  | submitted hsub =>
    refine h.of_silent hk (SimulatedKernel.submit_silent hsub.kernel) ?_
    rw [Machine.collection?_append hsub.calls]; rfl
  | pollFailed hp => exact h.of_pollFailed hp hk
  | polled hp => exact (h.of_polled ha hs hp).1

/-- A completion counts the doorbell up as it adds its record. -/
theorem of_completed (h : Rings e m) {o : Operation} {rest : List Operation} {bytes : List UInt8}
    {result : Int64} {owner : Option UInt64}
    (hroom : (m.afterCompletion owner o rest bytes result).kernel.ready.length < UInt64.size) :
    Rings e (m.afterCompletion owner o rest bytes result) := by
  have hready : (m.afterCompletion owner o rest bytes result).kernel.ready.length =
      m.kernel.ready.length + 1 := by
    simp [Machine.afterCompletion, SimulatedKernel.deliver]
  have hle := h.counter_le
  rw [hready] at hroom
  have hcounter : (m.afterCompletion owner o rest bytes result).kernel.counter.toNat =
      m.kernel.counter.toNat + 1 :=
    SimulatedKernel.toNat_counter_deliver (k := { m.kernel with inFlight := rest })
      (by show m.kernel.counter.toNat + 1 < _; omega) _
  have hcalls : (m.afterCompletion owner o rest bytes result).calls = m.calls :=
    (Machine.transferInto_drift owner o bytes m).calls
  refine ⟨h.alive, h.short, by omega, fun hn => ?_⟩
  rw [Machine.CollectionRefused, Machine.collection?_congr hcalls] at hn
  have := h.counter_eq hn
  omega

theorem kernelStep {step : KernelStep} (hstep : step.IsGenuine) (h : Rings e m)
    (owner : Option UInt64)
    (hroom : (m.kernelStep owner step).2.kernel.ready.length < UInt64.size) :
    Rings e (m.kernelStep owner step).2 := by
  rcases Machine.kernelStep_silent hstep owner m with hq | ⟨o, rest, bytes, result, -, hm⟩
  · exact h.of_silent (.refl e) hq
      (Machine.collection?_congr (Machine.kernelStep_drift owner step m).calls)
  · rw [hm] at hroom ⊢
    exact h.of_completed hroom

/-- A poll that nothing disturbs delivers everything that waits, if the doorbell rang. -/
theorem poll_eq (h : Rings e m) (ha : Accounted UInt32.size e m) (hs : Sound e)
    (hcounter : m.kernel.counter ≠ 0)
    (hf : ∀ f ∈ m.kernel.failures, f.1 ≠ .read ∧ f.1 ≠ .getEvents) (hr : m.kernel.shortReads = []) :
    ∃ e' m', e.poll m = (.ok m.kernel.ready.length, e', m') ∧
      e'.records.take e'.ready = m.kernel.ready ∧ m'.kernel.ready = [] := by
  have hread := SimulatedKernel.read_undisturbed h.alive.2 hcounter (fun f hm => (hf f hm).1) hr
  have hget := SimulatedKernel.getEvents_undisturbed (k := { m.kernel with counter := 0 }) h.alive.1
    (fun f hm => (hf f hm).2) ha.trueCounts.2 1 e.maxEvents
  rcases poll_cases hs m with ⟨errno, m', -, hp⟩ | ⟨received, written, valid, refused, e', m', he, hp⟩
  · -- neither kernel call was refused
    rcases hp.kernel with ⟨hk, -⟩ | ⟨length, signaled, hk, h8, -⟩ | ⟨signaled, k, hk, hk', -⟩ <;>
      rw [hread] at hk
    · simp at hk
    · simp only [Prod.mk.injEq, Except.ok.injEq] at hk
      exact absurd hk.1.1.symm h8
    · cases hk
      rw [hget] at hk'
      simp at hk'
  · obtain ⟨hwait, -, hempty⟩ := ha.ready_of_polled hs hp
    refine ⟨e', m', ?_, by rw [hp.delivered, hwait], hempty⟩
    rw [he, hwait]
    cases valid with
    | nil =>
      -- the doorbell does not ring for nothing
      have := h.counter_le
      rw [hwait] at this
      exact absurd (UInt64.toNat_inj.1 (Nat.le_zero.1 this)) hcounter
    | cons r rs => rfl

end Rings

/-! ## Whole runs -/

/-- Before there is an engine, there is nothing to count. -/
theorem silence_of_prepared (h : Prepared KernelStep.IsGenuine m) :
    m.kernel.counter = 0 ∧ m.kernel.ready = [] ∧ ∀ n ∈ m.kernel.shortReads, n < 8 := by
  induction h with
  | boot => exact ⟨rfl, rfl, by simp [Machine.boot, SimulatedKernel.fresh]⟩
  | @step m k h hk ih =>
    obtain ⟨hcounter, hready, hshort⟩ := ih
    rcases Machine.kernelStep_silent hk none m with hq | ⟨o, rest, bytes, result, ho, -⟩
    · exact ⟨hq.counter.trans hcounter, hq.ready.trans hready,
        fun n hn => (hq.shortReads n hn).elim (hshort n) id⟩
    · rw [(held_of_prepared (h.mono fun k hk => hk.isHonest.isTruthful UInt32.size)).1] at ho
      cases ho

theorem Created.rings {endpointCount maxEvents : Nat} (hm : Prepared KernelStep.IsGenuine m)
    (h : Created endpointCount maxEvents m e m') : Rings e m' := by
  obtain ⟨hcounter, hready, hshort⟩ := silence_of_prepared hm
  obtain ⟨k, hsetup, heventfd⟩ := h.kernel
  have hk := SimulatedKernel.setup_ok hsetup
  have hk' := SimulatedKernel.eventfd_ok heventfd
  subst hk
  have hcount : m'.kernel.counter.toNat = m'.kernel.ready.length := by
    rw [hk', hcounter, hready]; rfl
  refine ⟨?_, ?_, Nat.le_of_eq hcount, fun _ => hcount⟩ <;> rw [hk']
  · simp
  · exact hshort

/-- Beside a kernel whose short reads are short, the doorbell keeps count. -/
theorem Course.rings (h : Course (.simulated KernelStep.IsGenuine) l e m) : Rings e m := by
  have htruth : ∀ {l e m}, Course (.simulated KernelStep.IsGenuine) l e m →
      Course (.simulated (KernelStep.IsTruthful UInt32.size)) l e m :=
    fun h => h.mono fun k hk => hk.isHonest.isTruthful _
  induction h with
  | created hs h => exact (create_eq_ok h).rings hs
  | @called l e m call h ih =>
    exact ih.effect ((htruth h).accounted h.sound.endpointCount_le_size) h.sound
      (perform_effect h.sound call l m)
  | @passed l l' e m m' h hw ih =>
    have hnext := htruth (h.passed hw)
    have hle := (hnext.accounted hnext.sound.endpointCount_le_size).length_ready_le hnext.sound
    have hmax := hnext.sound.maxEvents_le
    obtain ⟨k, hk, rfl, rfl⟩ := hw
    refine ih.kernelStep hk _ ?_
    simp only [Limits.int32, UInt64.size] at *
    omega

end Engine

/-! ## Runs -/

/-- **The doorbell announces what waits, unless a collection was refused.** The counter never exceeds the
number of records that wait, and is equal to it if the latest collection was not refused. While it is not
zero, a poll that no failure and no short read meets delivers exactly the records that wait. -/
theorem SingleEngine.announced_unless_refused {steps : List Step}
    (h : SingleEngine KernelStep.IsGenuine steps) {e : Engine}
    (he : (Session.run steps (.boot .fresh)).engine = some e) :
    let m := (Session.run steps (.boot .fresh)).machine
    m.kernel.counter.toNat ≤ m.kernel.ready.length ∧
    (¬ m.CollectionRefused → m.kernel.counter.toNat = m.kernel.ready.length) ∧
    (m.kernel.counter ≠ 0 → (∀ f ∈ m.kernel.failures, f.1 ≠ .read ∧ f.1 ≠ .getEvents) →
      m.kernel.shortReads = [] → ∃ e' m', e.poll m = (.ok m.kernel.ready.length, e', m') ∧
        e'.records.take e'.ready = m.kernel.ready ∧ m'.kernel.ready = []) := by
  intro m
  rw [← Watched.session_run] at he
  have hc := h.course he
  rw [Watched.session_run] at hc
  have hs := hc.sound
  have ha := (hc.mono fun k hk => hk.isHonest.isTruthful UInt32.size).accounted
    hs.endpointCount_le_size
  exact ⟨hc.rings.counter_le, hc.rings.counter_eq, fun hn hf hr => hc.rings.poll_eq ha hs hn hf hr⟩

/-- Two completions that arrived between polls count the doorbell up to two. -/
theorem SingleEngine.two_announced : ∃ steps e, SingleEngine KernelStep.IsGenuine steps ∧
    (Session.run steps (.boot .fresh)).engine = some e ∧ ∃ e' m',
      e.poll (Session.run steps (.boot .fresh)).machine = (.ok 2, e', m') ∧
      e'.records.take e'.ready = (Session.run steps (.boot .fresh)).machine.kernel.ready ∧
      m'.kernel.ready = [] := by
  let steps : List Step := [.command (.createEquipped [⟨7, .read, 2, 4, 0⟩]), .command (.call .submit),
    .kernel (.complete ⟨0, 1⟩ [8] 1), .kernel (.fail .read ⟨4⟩), .command (.call .poll),
    .kernel (.shortRead 4), .command (.call .poll), .kernel (.complete ⟨0, 0⟩ [] (-5))]
  have h : SingleEngine KernelStep.IsGenuine steps := by decide
  have hengine : (Session.run steps (.boot .fresh)).engine.isSome := by decide +kernel
  obtain ⟨e, he⟩ := Option.isSome_iff_exists.1 hengine
  obtain ⟨e', m', hp, hrest⟩ := (SingleEngine.announced_unless_refused h he).2.2 (by decide +kernel)
    (by decide +kernel) (by decide +kernel)
  have hlen : (Session.run steps (.boot .fresh)).machine.kernel.ready.length = 2 := by decide +kernel
  rw [hlen] at hp
  exact ⟨steps, e, h, he, e', m', hp, hrest⟩

/-- After a refused collection a record waits that nothing announces, and the next poll, which no failure
meets, finds nothing to wait for and would block. -/
theorem SingleEngine.refused_collection_unannounced : ∃ steps e,
    SingleEngine KernelStep.IsGenuine steps ∧
      (Session.run steps (.boot .fresh)).engine = some e ∧
      (Session.run steps (.boot .fresh)).machine.kernel.ready.length = 1 ∧
      (Session.run steps (.boot .fresh)).machine.kernel.counter = 0 ∧
      (Session.run steps (.boot .fresh)).machine.kernel.failures = [] ∧
      (Session.run steps (.boot .fresh)).machine.kernel.shortReads = [] ∧
      (e.poll (Session.run steps (.boot .fresh)).machine).1 = .error (.error (.callFailed .again)) := by
  let steps : List Step := [.command (.createEquipped [⟨7, .read, 1, 4, 0⟩]), .command (.call .submit),
    .kernel (.complete ⟨0, 0⟩ [97, 98, 99, 100] 4), .kernel (.fail .getEvents ⟨4⟩),
    .command (.call .poll)]
  have hpoll : (Session.run steps (.boot .fresh)).engine.map (fun e =>
      (e.poll (Session.run steps (.boot .fresh)).machine).1) =
        some (.error (.error (.callFailed .again))) := by decide +kernel
  obtain ⟨e, he, hpoll⟩ := Option.map_eq_some_iff.1 hpoll
  exact ⟨steps, e, by decide, he, by decide +kernel, by decide +kernel, by decide +kernel,
    by decide +kernel, hpoll⟩

end Gadget
