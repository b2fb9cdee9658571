import Gadget.Proofs.Census
import Gadget.Proofs.Housing
import Gadget.Proofs.Runs
/-!
# Whatever the kernel answers

A `Reachable` engine was created on some machine and called in any order since, while anything at all
happened to the machine between the calls: its kernel may be in any state, and its regions may hold any
bytes. Soundness needs nothing of that machine (`Reachable.sound`), and a buffer has its own region as
long as nobody gives regions back or changes their length (`Reachable.housed`). An engine that is created
together with its endpoints is reachable as well (`Reachable.createdEquipped`). A call moves the buffer of
a slot, if at all, one step along the life of buffers (`perform_phase`).
-/
namespace Gadget.Engine

variable {κ : Type} [Kernel κ] {e e' : Engine} {m m' : Machine κ} {s : Slot}

/-! ## Reachable engines -/

/-- The engines that calls can lead to, and the machines beside them. Regions that are allocated stay
as they are between two calls, apart from their bytes; all else may become anything. -/
inductive Reachable : Engine → Machine κ → Prop
  | created {endpointCount maxEvents : Nat} {m m' : Machine κ} {e : Engine}
    (h : create endpointCount maxEvents m = (.ok e, m')) : Reachable e m'
  | called {e : Engine} {m : Machine κ} (call : EngineCall) (h : Reachable e m) :
    Reachable (e.perform call m).2.1 (e.perform call m).2.2
  | passed {e : Engine} {m m' : Machine κ} (h : Reachable e m)
    (hm : ∀ region size, m.memory.length? region = some size →
      m'.memory.length? region = some size) : Reachable e m'

/-- Every engine of a run is reachable. -/
theorem Course.reachable {env : Environment κ} {l : Ledger} (h : Course env l e m) :
    Reachable e m := by
  induction h with
  | created hs h => exact .created h
  | called call h ih => exact .called call ih
  | @passed l l' e m m' h hw ih =>
    obtain ⟨hd, -⟩ := env.drift l e m l' m' hw
    exact .passed ih fun region size hl => by rw [Memory.length?_congr hd.shape]; exact hl

theorem Reachable.equipAll {plans : List EndpointPlan} {index : Nat} (h : Reachable e m)
    (he : equipAll index plans e m = (.ok (), e', m')) : Reachable e' m' := by
  induction plans generalizing index e m with
  | nil =>
    simp only [Engine.equipAll, Prod.mk.injEq, true_and] at he
    obtain ⟨rfl, rfl⟩ := he
    exact h
  | cons plan plans ih =>
    obtain ⟨e₁, m₁, hq, hrest⟩ := equipAll_cons_eq_ok he
    have hnext := h.called (.equip index plan)
    simp only [perform, hq] at hnext
    exact ih hnext hrest

/-- An engine that is created with its endpoints is created and then equipped. -/
theorem Reachable.createdEquipped {plans : List EndpointPlan}
    (h : createEquipped plans m = (.ok e, m')) : Reachable e m' := by
  obtain ⟨total, e₁, m₁, hc, ha⟩ := createEquipped_eq_ok h
  exact (Reachable.created hc).equipAll ha

theorem Reachable.sound (h : Reachable e m) : Sound e := by
  induction h with
  | created h => exact (create_eq_ok h).sound
  | @called e m call h ih => exact (perform_effect ih call .empty m).sound ih
  | passed h hm ih => exact ih

/-- Each buffer has a region of its own. -/
theorem Reachable.housed (h : Reachable e m) : ∃ l, Housed l e m := by
  induction h with
  | created h => exact ⟨_, (create_eq_ok h).housed⟩
  | @called e m call h ih =>
    obtain ⟨l, hl⟩ := ih
    exact ⟨_, hl.effect (perform_effect h.sound call l m)⟩
  | passed h hm ih =>
    obtain ⟨l, hl⟩ := ih
    exact ⟨l, hl.of_same rfl (fun s file b hf => ⟨b, hf, rfl, rfl⟩) hm⟩

/-! ## The life of a buffer -/

/-- What a call can do to the buffer in a slot: a new endpoint brings armed buffers, a submission
launches armed ones, a poll completes those in flight, and a completed one can be armed again. -/
inductive PhaseMove (e : Engine) (s : Slot) : EngineCall → Option Phase → Option Phase → Prop
  | equip {plan : EndpointPlan} (hb : s.buffer.toNat < plan.count) :
    PhaseMove e s (.equip s.endpoint.toNat plan) none (some .armed)
  | submit : PhaseMove e s .submit (some .armed) (some .inFlight)
  | poll : PhaseMove e s .poll (some .inFlight) (some .completed)
  | rearm (direction : Direction) :
    PhaseMove e s (.rearm s direction) (some .completed) (some .armed)
  | rearmAt {index : Nat} {r : Record} (direction : Direction) (hc : e.completed index = .ok r)
    (hr : r.slot = s) : PhaseMove e s (.rearmAt index direction) (some .completed) (some .armed)

theorem equip_phase (hs : Sound e) (index : Nat) (plan : EndpointPlan) (m : Machine κ) (s : Slot) :
    (e.equip index plan m).2.1.endpoints.phase? s = e.endpoints.phase? s ∨
      PhaseMove e s (.equip index plan) (e.endpoints.phase? s)
        ((e.equip index plan m).2.1.endpoints.phase? s) := by
  rcases equip_cases hs index plan m with ⟨err, k, m', he, -⟩ | ⟨buffers, e', m', he, h⟩
  · rw [he]; exact .inl rfl
  · rw [he]
    simp only [h.phase?_eq]
    split
    · rename_i hnew
      obtain ⟨rfl, hb⟩ := hnew
      have hnone : e.endpoints.phase? s = none := by
        rw [EndpointTable.phase?, h.find?_vacant rfl]; rfl
      rw [hnone]
      exact .inr (.equip hb)
    · exact .inl rfl

theorem submit_phase (hs : Sound e) (m : Machine κ) (s : Slot) :
    (e.submit m).2.1.endpoints.phase? s = e.endpoints.phase? s ∨
      PhaseMove e s .submit (e.endpoints.phase? s) ((e.submit m).2.1.endpoints.phase? s) := by
  rcases submit_cases hs m with ⟨-, he⟩ | ⟨errno, m', he, -⟩ | ⟨count, e', m', he, h⟩
  · rw [he]; exact .inl rfl
  · rw [he]; exact .inl rfl
  · rw [he]
    simp only [h.phase?_eq hs]
    split
    · rename_i hm
      rw [(hs.mem_backlog s).1 (List.mem_of_mem_take hm)]
      exact .inr .submit
    · exact .inl rfl

theorem poll_phase (hs : Sound e) (m : Machine κ) (s : Slot) :
    (e.poll m).2.1.endpoints.phase? s = e.endpoints.phase? s ∨
      PhaseMove e s .poll (e.endpoints.phase? s) ((e.poll m).2.1.endpoints.phase? s) := by
  rcases poll_cases hs m with ⟨errno, m', he, -⟩ | ⟨count, written, valid, refused, e', m', he, h⟩
  · rw [he]; exact .inl rfl
  · rw [he]
    simp only [h.phase?_eq]
    split
    · rename_i hm
      obtain ⟨r, hr, rfl⟩ := List.mem_map.1 hm
      rw [h.settles.inFlight r hr]
      exact .inr .poll
    · exact .inl rfl

omit [Kernel κ] in
theorem rearm_phase (slot : Slot) (direction : Direction) (e : Engine) (m : Machine κ) (s : Slot) :
    (e.rearm slot direction m).2.1.endpoints.phase? s = e.endpoints.phase? s ∨
      s = slot ∧ e.endpoints.phase? s = some .completed ∧
        (e.rearm slot direction m).2.1.endpoints.phase? s = some .armed := by
  rcases rearm_cases slot direction e m with ⟨err, he⟩ | ⟨file, b, e', m', he, h⟩
  · rw [he]; exact .inl rfl
  · rw [he]
    simp only [h.phase?_eq]
    split
    · rename_i hm
      subst hm
      exact .inr ⟨rfl, h.phase?_slot, rfl⟩
    · exact .inl rfl

/-- **A call moves a buffer along its life or not at all.** -/
theorem perform_phase (hs : Sound e) (call : EngineCall) (m : Machine κ) (s : Slot) :
    (e.perform call m).2.1.phase? s = e.phase? s ∨
      PhaseMove e s call (e.phase? s) ((e.perform call m).2.1.phase? s) := by
  cases call with
  | equip index plan => exact equip_phase hs index plan m s
  | submit => exact submit_phase hs m s
  | poll => exact poll_phase hs m s
  | rearm slot direction =>
    rcases rearm_phase slot direction e m s with h | ⟨rfl, hc, ha⟩
    · exact .inl h
    · right
      simp only [perform, phase?_eq, hc, ha]
      exact .rearm direction
  | rearmAt index direction =>
    cases hc : e.completed index with
    | error err => exact .inl (by simp only [perform, rearmAt_error hc])
    | ok r =>
      simp only [perform, rearmAt_eq hc]
      rcases rearm_phase r.slot direction e m s with h | ⟨rfl, hp, ha⟩
      · exact .inl h
      · right
        simp only [phase?_eq, hp, ha]
        exact .rearmAt direction hc rfl
  | write slot start bytes => exact .inl rfl
  | writeAt index start bytes => exact .inl rfl
  | inspect index => exact .inl rfl
  | delivered => exact .inl rfl
  | size => exact .inl rfl
  | endpoint index => exact .inl rfl
  | phase slot => exact .inl rfl

/-! ## The invariant -/

/-- **An engine keeps its own books beside any kernel**, whatever counts it reports and whatever records
it makes up: exactly the armed slots wait, each once; the buffers of all endpoints are counted, are as
many as those that wait, are in flight or are completed, and fit the record array; the completions of the
last poll are about distinct buffers; no buffer is idle, and a header never fills the region. A call moves
a buffer along its life or not at all. -/
theorem Reachable.books_balance (h : Reachable e m) :
    (e.backlog.slots.Nodup ∧ ∀ s, s ∈ e.backlog.slots ↔ e.phase? s = some .armed) ∧
    (e.owned = e.endpoints.buffers.length ∧
      e.waiting + e.endpoints.inFlight + e.endpoints.buffers.countP (·.phase = .completed) = e.owned ∧
      e.owned ≤ e.maxEvents) ∧
    (e.ready ≤ e.maxEvents ∧ ((e.records.take e.ready).map Record.slot).Nodup ∧
      ∀ r ∈ e.records.take e.ready, ∃ file b, e.endpoints.find? r.slot = some (file, b)) ∧
    (∀ b ∈ e.endpoints.buffers, b.phase ≠ .idle ∧ b.header < (b.bytes m.memory).length) ∧
    ∀ call s, (e.perform call m).2.1.phase? s = e.phase? s ∨
      PhaseMove e s call (e.phase? s) ((e.perform call m).2.1.phase? s) := by
  have hs := h.sound
  obtain ⟨l, hh⟩ := h.housed
  refine ⟨⟨hs.backlog_nodup, hs.mem_backlog⟩, ⟨hs.owned_eq, hs.census, hs.owned_le⟩,
    ⟨hs.ready_le, hs.ready_nodup, ?_⟩, ?_, fun call s => perform_phase hs call m s⟩
  · intro r hr
    obtain ⟨p, hp⟩ := Option.isSome_iff_exists.1 (hs.ready_found r hr)
    obtain ⟨file, b, hf, -⟩ := EndpointTable.phase?_eq_some_iff.1 hp
    exact ⟨file, b, hf⟩
  · intro b hb
    obtain ⟨s, file, hf⟩ := hs.exists_find? hb
    rw [hh.length_bytes hf]
    exact ⟨hs.phase_ne_idle hb, b.header_lt⟩

/-- A kernel that takes one operation and claims three, and then delivers two records of one operation
that it does not have, one of an endpoint that does not exist, and nothing at all where it claims more. -/
def lyingRun : List Step :=
  [.command (.createEquipped [⟨7, .read, 3, 2, 1⟩, ⟨8, .write, 1, 4, 0⟩]),
    .kernel (.limitSubmit 1), .kernel (.reportSubmit 3), .command (.call .submit),
    .kernel (.inject (Slot.toTag ⟨0, 2⟩) 1), .kernel (.inject (Slot.toTag ⟨0, 2⟩) 1),
    .kernel (.inject (Slot.toTag ⟨9, 9⟩) 0), .kernel (.reportEvents 50), .command (.call .poll)]

/-- The lies complete the third buffer and, through a record that was never filled, the first. -/
theorem Reachable.books_balance_under_lies : ∃ (e : Engine) (m : Machine SimulatedKernel),
    Reachable e m ∧ e.phases = [some [.completed, .inFlight, .completed], some [.armed]] ∧
      e.waiting + e.endpoints.inFlight + e.endpoints.buffers.countP (·.phase = .completed) = e.owned ∧
      e.owned ≤ e.maxEvents := by
  have hphases : (Watched.run lyingRun).session.engine.map Engine.phases =
      some [some [.completed, .inFlight, .completed], some [.armed]] := by decide +kernel
  obtain ⟨e, he, hphases⟩ := Option.map_eq_some_iff.1 hphases
  have hr := (SingleEngine.course (by decide : SingleEngine (fun _ => True) lyingRun) he).reachable
  exact ⟨e, _, hr, hphases, (Reachable.books_balance hr).2.1.2⟩

end Gadget.Engine
