import Gadget.Proofs.WakeUp
/-!
# A poll waits only for the doorbell

The counter and the records are consumed by two calls, at different rates, and either of them can fail.
Still the counter never gets ahead of the records (`SimulatedKernel.Announced`): a record raises both by one,
a read takes all of the counter and no record, and a collection takes records only after the counter was
read away. So a read that succeeds leaves a record to collect, whoever made that record up, and a poll that
succeeds brings a completion.
-/
namespace Gadget

namespace KernelStep

/-- Collections report true counts, and a read that is cut short is shorter than eight bytes. Calls may
fail, submissions may be taken in part or misreported, and any record may be made up. -/
def IsForthright : KernelStep → Prop
  | .reportEvents _ => False
  | .shortRead length => length < 8
  | _ => True

instance : DecidablePred IsForthright
  | .reportEvents _ => .isFalse id
  | .shortRead length => inferInstanceAs (Decidable (length < 8))
  | .fail _ _ | .limitSubmit _ | .reportSubmit _ | .complete _ _ _ | .inject _ _ | .limitMemory _
  | .refuse _ _ =>
    .isTrue trivial

end KernelStep

/-! ## The kernel -/

namespace SimulatedKernel

/-- The counter announces no more records than there are, and neither reads nor collections pretend
otherwise. -/
structure Announced (k : SimulatedKernel) : Prop where
  eventReports : k.eventReports = []
  short : ∀ n ∈ k.shortReads, n < 8
  counter_le : k.counter.toNat ≤ k.ready.length

namespace Announced

variable {k k' : SimulatedKernel}

theorem of_silent (h : Announced k) (hq : Silent k k') (hr : k'.eventReports = k.eventReports) :
    Announced k' where
  eventReports := hr.trans h.eventReports
  short n hn := (hq.shortReads n hn).elim (h.short n) id
  counter_le := by rw [hq.counter, hq.ready]; exact h.counter_le

theorem submit (h : Announced k) {id : UInt64} {batch : List Descriptor} {outcome : Except Errno Nat}
    (hk : Kernel.submit id batch k = (outcome, k')) : Announced k' := by
  refine h.of_silent (submit_silent hk) ?_
  change SimulatedKernel.submit id batch k = (outcome, k') at hk
  simp only [SimulatedKernel.submit] at hk
  split at hk
  · cases hk; rfl
  · rcases answer_cases .submit _ { k with submissions := k.submissions + 1 } with
      ⟨errno, failures, ha⟩ | ha <;>
    · rw [ha] at hk
      cases hk
      rfl

theorem read (h : Announced k) {file : Int32} {outcome : Except Errno (Nat × UInt64)}
    (hk : Kernel.read file k = (outcome, k')) : Announced k' := by
  have hr : k'.eventReports = k.eventReports := by
    have hu := read_untouched file k
    rw [hk] at hu
    exact hu.eventReports
  rcases read_cases hk with ⟨errno, -, hq⟩ | ⟨length, -, -, hq⟩ | ⟨-, -, hq, hzero, -⟩
  · exact h.of_silent hq hr
  · exact h.of_silent hq hr
  · refine ⟨hr.trans h.eventReports, fun n hn => (hq.shortReads n hn).elim (h.short n) id, ?_⟩
    rw [hzero]
    exact Nat.zero_le _

/-- A read that succeeds leaves no count, and records to collect. -/
theorem of_rang (h : Announced k) {file : Int32} {signaled : UInt64}
    (hk : Kernel.read file k = (.ok (8, signaled), k')) :
    k'.counter = 0 ∧ k'.ready = k.ready ∧ 0 < k.ready.length := by
  obtain ⟨hne, -, hzero, hready⟩ := read_eight h.short hk
  have hpos : k.counter.toNat ≠ 0 := fun h0 => hne (UInt64.toNat_inj.1 h0)
  have hle := h.counter_le
  exact ⟨hzero, hready, by omega⟩

/-- Once the counter was read away, records can be collected. -/
theorem getEvents (h : Announced k) (hzero : k.counter = 0) {id : UInt64} {minimum room : Nat}
    {outcome : Except Errno (Nat × List Record)}
    (hk : Kernel.getEvents id minimum room k = (outcome, k')) : Announced k' := by
  obtain ⟨hq, hcounter⟩ := getEvents_steady hk
  refine ⟨?_, fun n hn => (hq.shortReads n hn).elim (h.short n) fun hlt => hlt, ?_⟩
  · rcases getEvents_spec h.eventReports hk with ⟨errno, -, hu⟩ | ⟨count, written, -, -, -, -, -, -, hr⟩
    · exact hu.eventReports.trans h.eventReports
    · exact hr
  · rw [hcounter, hzero]
    exact Nat.zero_le _

/-- A record is counted once; a counter that turns over only announces less. -/
theorem deliver (h : Announced k) (r : Record) : Announced (k.deliver r) where
  eventReports := h.eventReports
  short := h.short
  counter_le := by
    have hle := h.counter_le
    have hmod := Nat.mod_le (k.counter.toNat + 1) (2 ^ 64)
    simp only [SimulatedKernel.deliver, List.length_append, List.length_singleton, UInt64.toNat_add,
      UInt64.toNat_one]
    omega

end Announced

end SimulatedKernel

/-- A forthright kernel announces no more than there is by itself. -/
theorem Machine.kernelStep_announced {step : KernelStep} (hstep : step.IsForthright)
    (owner : Option UInt64) {m : Machine SimulatedKernel} (h : m.kernel.Announced) :
    (m.kernelStep owner step).2.kernel.Announced := by
  cases step with
  | reportEvents n => exact hstep.elim
  | inject tag result => exact h.deliver _
  | shortRead length =>
    refine ⟨h.eventReports, fun n hn => ?_, h.counter_le⟩
    rcases List.mem_append.1 hn with hn | hn
    · exact h.short n hn
    · rw [List.mem_singleton.1 hn]
      exact hstep
  | complete slot bytes result =>
    rcases complete_cases owner slot bytes result m with ⟨err, hc⟩ | ⟨o, before, after, -, -, -, hc⟩ <;>
      rw [kernelStep, hc]
    · exact h
    · exact SimulatedKernel.Announced.deliver (k := { m.kernel with inFlight := before ++ after })
        ⟨h.eventReports, h.short, h.counter_le⟩ _
  | fail kind errno => exact ⟨h.eventReports, h.short, h.counter_le⟩
  | limitSubmit n => exact ⟨h.eventReports, h.short, h.counter_le⟩
  | reportSubmit n => exact ⟨h.eventReports, h.short, h.counter_le⟩
  | limitMemory bytes => exact ⟨h.eventReports, h.short, h.counter_le⟩
  | refuse purpose earlier => exact ⟨h.eventReports, h.short, h.counter_le⟩

/-! ## Whole runs -/

namespace Engine

variable {l l' : Ledger} {e e' : Engine} {m m' : Machine SimulatedKernel}

/-- An engine has room for an operation. -/
theorem Course.maxEvents_pos {κ : Type} [Kernel κ] {env : Environment κ} {m : Machine κ}
    (h : Course env l e m) : 0 < e.maxEvents := by
  induction h with
  | created hs h =>
    have hc := create_eq_ok h
    rw [hc.maxEvents_eq]
    exact (checkSize_eq_ok hc.size).2.1
  | @called l e m call h ih =>
    rw [(perform_effect h.sound call l m).maxEvents_eq]
    exact ih
  | passed h hw ih => exact ih

theorem announced_of_prepared (h : Prepared KernelStep.IsForthright m) : m.kernel.Announced := by
  induction h with
  | boot => exact ⟨rfl, by simp [Machine.boot, SimulatedKernel.fresh], Nat.zero_le _⟩
  | step h hk ih => exact Machine.kernelStep_announced hk none ih

theorem Created.announced {endpointCount maxEvents : Nat} (h : Created endpointCount maxEvents m e m')
    (hm : m.kernel.Announced) : m'.kernel.Announced := by
  obtain ⟨k, hsetup, heventfd⟩ := h.kernel
  have hk := SimulatedKernel.setup_ok hsetup
  have hk' := SimulatedKernel.eventfd_ok heventfd
  subst hk
  rw [hk']
  exact ⟨hm.eventReports, hm.short, hm.counter_le⟩

theorem Effect.announced (h : Effect l e m l' e' m') (hm : m.kernel.Announced) :
    m'.kernel.Announced := by
  cases h with
  | nothing => exact hm
  | allocationFailed hg => rw [hg.kernel]; exact hm
  | equipped hq => rw [hq.machine.kernel]; exact hm
  | wrote hf hp => exact hm
  | rearmed hr => rw [hr.machine]; exact hm
  | submitFailed hf => exact hm.submit hf.kernel
  | submitted hsub => exact hm.submit hsub.kernel
  | pollFailed hp =>
    rcases hp.kernel with ⟨hread, -⟩ | ⟨length, signaled, hread, -⟩ | ⟨signaled, k, hread, hget, -⟩
    · exact hm.read hread
    · exact hm.read hread
    · exact (hm.read hread).getEvents (hm.of_rang hread).1 hget
  | polled hp =>
    obtain ⟨signaled, k, hread, hget, -⟩ := hp.kernel
    exact (hm.read hread).getEvents (hm.of_rang hread).1 hget

theorem Course.announced (h : Course (.simulated KernelStep.IsForthright) l e m) :
    m.kernel.Announced := by
  induction h with
  | created hs h => exact (create_eq_ok h).announced (announced_of_prepared hs)
  | @called l e m call h ih => exact (perform_effect h.sound call l m).announced ih
  | @passed l l' e m m' h hw ih =>
    obtain ⟨k, hk, -, rfl⟩ := hw
    exact Machine.kernelStep_announced hk _ ih

/-- A wait that succeeds read eight bytes. -/
theorem read_of_wait {κ : Type} [Kernel κ] {m m' : Machine κ} {signaled : UInt64}
    (h : e.doorbell.wait m = (.ok signaled, m')) :
    Kernel.read e.doorbell.file m.kernel = (.ok (8, signaled), m'.kernel) := by
  cases hread : Kernel.read e.doorbell.file m.kernel with
  | mk outcome k =>
  cases outcome with
  | error errno =>
    rw [wait_of_refused hread] at h
    cases h
  | ok x =>
    obtain ⟨length, value⟩ := x
    rw [wait_of_read hread] at h
    split at h
    · rename_i h8
      cases h
      rw [h8]; rfl
    · cases h

/-- A collection from a kernel that has records brings one, if it succeeds. -/
theorem collected_pos {k k' : SimulatedKernel} (h : k.Announced) (hpos : 0 < k.ready.length)
    {id : UInt64} {minimum room count : Nat} (hroom : 0 < room) {written : List Record}
    (hk : Kernel.getEvents id minimum room k = (.ok (count, written), k')) :
    count = written.length ∧ 0 < count ∧ written = k.ready.take room := by
  obtain ⟨hwritten, hcount, -⟩ := SimulatedKernel.getEvents_ok h.eventReports hk
  have hlen : written.length = min room k.ready.length := by rw [hwritten, List.length_take]
  exact ⟨hcount, by omega, hwritten⟩

/-- A poll that succeeds brings a completion. -/
theorem poll_pos (hs : Sound e) (hm : m.kernel.Announced) (hmax : 0 < e.maxEvents) :
    (e.poll m).1 ≠ .ok 0 := by
  rcases poll_cases hs m with ⟨errno, m', he, -⟩ | ⟨count, written, valid, refused, e', m', he, hp⟩
  · rw [he]; simp
  · rw [he]
    intro h0
    have hvalid : valid = [] := List.length_eq_zero_iff.1 (pollOutcome_eq_ok h0).symm
    obtain ⟨signaled, k, hread, hget, -⟩ := hp.kernel
    obtain ⟨-, hready, hpos⟩ := hm.of_rang hread
    obtain ⟨-, hcount, -⟩ := collected_pos (hm.read hread) (by rw [hready]; exact hpos) hmax hget
    -- the sweep saw a record, so with none that counts there is one that was refused
    have hlen := hp.settles.length
    rw [hvalid, List.length_take, length_array, List.length_nil] at hlen
    cases refused with
    | nil => simp only [List.length_nil] at hlen; omega
    | cons x xs =>
      rw [hvalid] at h0
      cases h0

end Engine

/-- **The read of the doorbell is the only place where a poll can wait.** Beside a kernel that reports true
counts of collected records and reads short when it reads short, the counter never exceeds the number of
records that are ready, whatever fails and whoever made the records up. When the read of a poll succeeds a
record is ready, so the collection has something to return at once, and no poll returns zero. -/
theorem SingleEngine.waits_only_for_doorbell {steps : List Step}
    (h : SingleEngine KernelStep.IsForthright steps) {e : Engine}
    (he : (Session.run steps (.boot .fresh)).engine = some e) :
    let m := (Session.run steps (.boot .fresh)).machine
    m.kernel.counter.toNat ≤ m.kernel.ready.length ∧
    (∀ signaled m', e.doorbell.wait m = (.ok signaled, m') →
      0 < m'.kernel.ready.length ∧ m'.kernel.counter.toNat ≤ m'.kernel.ready.length ∧
      ∀ count written k,
        Kernel.getEvents e.context.id 1 e.maxEvents m'.kernel = (.ok (count, written), k) →
          count = written.length ∧ 0 < count ∧ written = m'.kernel.ready.take e.maxEvents) ∧
    (e.poll m).1 ≠ .ok 0 := by
  rw [← Watched.session_run] at he ⊢
  have hc := h.course he
  have hm := hc.announced
  refine ⟨hm.counter_le, ?_, Engine.poll_pos hc.sound hm hc.maxEvents_pos⟩
  intro signaled m' hwait
  have hread := Engine.read_of_wait hwait
  obtain ⟨-, hready, hpos⟩ := hm.of_rang hread
  have hm' := hm.read hread
  rw [← hready] at hpos
  exact ⟨hpos, hm'.counter_le, fun count written k => Engine.collected_pos hm' hpos hc.maxEvents_pos⟩

/-- Two records are ready and one is announced: one of no operation, whose collection was refused, and one
of the first buffer. The read succeeds after one that was cut short. -/
theorem SingleEngine.waits_beside_foreign : ∃ steps e m', SingleEngine KernelStep.IsForthright steps ∧
    (Session.run steps (.boot .fresh)).engine = some e ∧
    (Session.run steps (.boot .fresh)).machine.kernel.counter = 1 ∧
    (Session.run steps (.boot .fresh)).machine.kernel.ready.length = 2 ∧
    e.doorbell.wait (Session.run steps (.boot .fresh)).machine = (.ok 1, m') ∧
    0 < m'.kernel.ready.length ∧ (e.poll (Session.run steps (.boot .fresh)).machine).1 ≠ .ok 0 := by
  let steps : List Step := [.command (.createEquipped [⟨7, .read, 2, 4, 0⟩]), .command (.call .submit),
    .kernel (.inject 77 0), .kernel (.fail .getEvents ⟨4⟩), .command (.call .poll),
    .kernel (.complete ⟨0, 0⟩ [1] 1), .kernel (.shortRead 4), .command (.call .poll)]
  have h : SingleEngine KernelStep.IsForthright steps := by decide
  have hrang : (Session.run steps (.boot .fresh)).engine.map (fun e =>
      (e.doorbell.wait (Session.run steps (.boot .fresh)).machine).1) = some (.ok 1) := by
    decide +kernel
  obtain ⟨e, he, hrang⟩ := Option.map_eq_some_iff.1 hrang
  obtain ⟨-, hwait, hpoll⟩ := SingleEngine.waits_only_for_doorbell h he
  cases hw : e.doorbell.wait (Session.run steps (.boot .fresh)).machine with
  | mk outcome m' =>
  rw [hw] at hrang
  cases hrang
  exact ⟨steps, e, m', h, he, by decide +kernel, by decide +kernel, hw, (hwait _ _ hw).1, hpoll⟩

end Gadget
