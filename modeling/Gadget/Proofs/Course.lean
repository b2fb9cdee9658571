import Gadget.Proofs.Creating
import Gadget.Proofs.Ledger
import Gadget.Proofs.Polling
import Gadget.Proofs.Rearming
import Gadget.Proofs.Submitting
/-!
# Whole runs of one engine

A `Course` is a run of one engine from its creation on: calls, and between them whatever its
`Environment` does to the machine. The ledger is kept along. What the laws of runs need to know of a
call is its `Effect`, one of nine; `perform_effect` is where the calls are opened, so that a law has
three cases: a new engine, an effect, a move of the environment. An engine that is created together
with its endpoints has such a run as well (`Course.createdEquipped`): it is created and then its
endpoints are equipped one after another.
-/
namespace Gadget

variable {κ : Type}

/-! ## Environments -/

/-- What no environment does: it never takes a region away or makes it longer or shorter, and never
changes the record of calls. -/
structure Machine.Drift (m m' : Machine κ) : Prop where
  shape : m'.memory.cells.map (Option.map List.length) = m.memory.cells.map (Option.map List.length)
  calls : m'.calls = m.calls

/-- The surroundings of an engine: the machines that it may be created on, and what may happen to
the machine between two calls. Of the ledger, only completed operations are theirs to add. -/
structure Environment (κ : Type) where
  start : Machine κ → Prop
  world : Ledger → Engine → Machine κ → Ledger → Machine κ → Prop
  blank : ∀ m, start m → m.calls = [] ∧ m.memory.cells = []
  drift : ∀ l e m l' m', world l e m l' m' →
    m.Drift m' ∧ l'.plans = l.plans ∧ l'.armed = l.armed ∧ l'.delivered = l.delivered

/-- Any kernel whatsoever, which may write whatever it likes into any region at any time. -/
def Environment.arbitrary (κ : Type) : Environment κ where
  start m := m.calls = [] ∧ m.memory.cells = []
  world l _ m l' m' :=
    m.Drift m' ∧ l'.plans = l.plans ∧ l'.armed = l.armed ∧ l'.delivered = l.delivered
  blank _ h := h
  drift _ _ _ _ _ h := h

namespace Engine

variable [Kernel κ] {env : Environment κ} {l l' : Ledger} {e e' : Engine} {m m' : Machine κ}

/-- The runs of one engine, with the ledger, the engine and the machine that they lead to. -/
inductive Course (env : Environment κ) : Ledger → Engine → Machine κ → Prop
  | created {endpointCount maxEvents : Nat} {m m' : Machine κ} {e : Engine} (hs : env.start m)
    (h : create endpointCount maxEvents m = (.ok e, m')) : Course env .empty e m'
  | called {l : Ledger} {e : Engine} {m : Machine κ} (call : EngineCall) (h : Course env l e m) :
    Course env (l.noteCall call e m) (e.perform call m).2.1 (e.perform call m).2.2
  | passed {l l' : Ledger} {e : Engine} {m m' : Machine κ} (h : Course env l e m)
    (hw : env.world l e m l' m') : Course env l' e m'

/-- No environment does what the arbitrary one does not. -/
theorem Course.arbitrary (h : Course env l e m) : Course (.arbitrary κ) l e m := by
  induction h with
  | created hs h => exact .created (env.blank _ hs) h
  | called call h ih => exact .called call ih
  | passed h hw ih => exact .passed ih (env.drift _ _ _ _ _ hw)

/-! ## Effects -/

/-- What a call can do. -/
inductive Effect (l : Ledger) (e : Engine) (m : Machine κ) : Ledger → Engine → Machine κ → Prop
  | nothing : Effect l e m l e m
  | allocationFailed {k : Nat} {m' : Machine κ} (h : m.Grew (List.replicate k none) m') :
    Effect l e m l e m'
  | equipped {index : Nat} {plan : EndpointPlan} {buffers : List Buffer} {e' : Engine}
    {m' : Machine κ} (h : Equipped index plan buffers e m e' m') :
    Effect l e m (l.noteEquip index plan) e' m'
  | wrote {slot : Slot} {file : Int32} {b : Buffer} {start : Nat} {bytes : List UInt8}
    (hf : e.endpoints.find? slot = some (file, b)) (hp : b.phase = .completed) :
    Effect l e m l e (m.overwrite b.region.number start bytes)
  | rearmed {slot : Slot} {direction : Direction} {file : Int32} {b : Buffer} {e' : Engine}
    {m' : Machine κ} (h : Rearmed slot direction file b e m e' m') :
    Effect l e m (l.noteArm slot direction (e.bytesAt slot m)) e' m'
  | submitFailed {errno : Errno} {m' : Machine κ} (h : SubmitFailed errno e m m') :
    Effect l e m l e m'
  | submitted {count : Nat} {e' : Engine} {m' : Machine κ} (h : Submitted count e m e' m') :
    Effect l e m l e' m'
  | pollFailed {errno : Errno} {m' : Machine κ} (h : PollFailed errno e m m') :
    Effect l e m l { e with ready := 0 } m'
  | polled {count : Nat} {written valid : List Record} {refused : List (Record × TransferError)}
    {e' : Engine} {m' : Machine κ} (h : Polled count written valid refused e m e' m') :
    Effect l e m (l.noteDelivered (e'.delivered m')) e' m'

theorem equip_effect (hs : Sound e) (index : Nat) (plan : EndpointPlan) (l : Ledger)
    (m : Machine κ) :
    Effect l e m (l.noteCall (.equip index plan) e m) (e.equip index plan m).2.1
      (e.equip index plan m).2.2 := by
  rcases equip_cases hs index plan m with ⟨err, k, m', he, hg⟩ | ⟨buffers, e', m', he, h⟩
  · simp only [Ledger.noteCall, he]; exact .allocationFailed hg
  · simp only [Ledger.noteCall, he]; exact .equipped h

theorem submit_effect (hs : Sound e) (l : Ledger) (m : Machine κ) :
    Effect l e m l (e.submit m).2.1 (e.submit m).2.2 := by
  rcases submit_cases hs m with ⟨-, he⟩ | ⟨errno, m', he, h⟩ | ⟨count, e', m', he, h⟩
  · rw [he]; exact .nothing
  · rw [he]; exact .submitFailed h
  · rw [he]; exact .submitted h

theorem poll_effect (hs : Sound e) (l : Ledger) (m : Machine κ) :
    Effect l e m (l.noteCall .poll e m) (e.poll m).2.1 (e.poll m).2.2 := by
  rcases poll_cases hs m with ⟨errno, m', he, h⟩ | ⟨count, written, valid, refused, e', m', he, h⟩
  · simp only [Ledger.noteCall, he]; exact .pollFailed h
  · have hnote : l.noteCall .poll e m = l.noteDelivered (e'.delivered m') := by
      simp only [Ledger.noteCall, he, delivered, h.ready]
      cases hout : pollOutcome valid refused with
      | ok n => simp only [pollOutcome_eq_ok hout]
      | error f =>
        -- a poll that fails here delivered nothing
        simp [pollOutcome_eq_error hout, Ledger.noteDelivered]
    rw [hnote, he]; exact .polled h

theorem rearm_effect (slot : Slot) (direction : Direction) (l : Ledger) (e : Engine) (m : Machine κ) :
    Effect l e m (l.noteCall (.rearm slot direction) e m) (e.rearm slot direction m).2.1
      (e.rearm slot direction m).2.2 := by
  rcases rearm_cases slot direction e m with ⟨err, he⟩ | ⟨file, b, e', m', he, h⟩
  · simp only [Ledger.noteCall, he]; exact .nothing
  · simp only [Ledger.noteCall, he]; exact .rearmed h

theorem write_effect (slot : Slot) (start : Nat) (bytes : List UInt8) (l : Ledger) (e : Engine)
    (m : Machine κ) : Effect l e m l e (e.write slot start bytes m).2 := by
  rcases write_cases slot start bytes e m with ⟨err, he⟩ | ⟨file, b, he, hf, hp⟩
  · rw [he]; exact .nothing
  · rw [he]; exact .wrote hf hp

/-- **Every call has an effect.** -/
theorem perform_effect (hs : Sound e) (call : EngineCall) (l : Ledger) (m : Machine κ) :
    Effect l e m (l.noteCall call e m) (e.perform call m).2.1 (e.perform call m).2.2 := by
  cases call with
  | equip index plan => exact equip_effect hs index plan l m
  | submit => exact submit_effect hs l m
  | poll => exact poll_effect hs l m
  | write slot start bytes => exact write_effect slot start bytes l e m
  | rearm slot direction => exact rearm_effect slot direction l e m
  | writeAt index start bytes =>
    cases hc : e.completed index with
    | error err =>
      simp only [Ledger.noteCall, perform, writeAt_error hc]; exact .nothing
    | ok r =>
      simp only [Ledger.noteCall, perform, writeAt_eq hc]; exact write_effect _ _ _ l e m
  | rearmAt index direction =>
    cases hc : e.completed index with
    | error err =>
      simp only [Ledger.noteCall, perform, hc, rearmAt_error hc]; exact .nothing
    | ok r =>
      simp only [Ledger.noteCall, perform, hc, rearmAt_eq hc]
      exact rearm_effect r.slot direction l e m
  | inspect index => exact .nothing
  | delivered => exact .nothing
  | size => exact .nothing
  | endpoint index => exact .nothing
  | phase slot => exact .nothing

theorem Effect.sound (h : Effect l e m l' e' m') (hs : Sound e) : Sound e' := by
  cases h with
  | nothing => exact hs
  | allocationFailed h => exact hs
  | equipped h => exact h.sound hs
  | wrote hf hp => exact hs
  | rearmed h => exact h.sound hs
  | submitFailed h => exact hs
  | submitted h => exact h.sound hs
  | pollFailed h => exact hs.unready
  | polled h => exact h.sound hs

theorem Effect.keeps (h : Effect l e m l' e' m') : Keeps e e' := by
  cases h with
  | nothing => exact .refl e
  | allocationFailed h => exact .refl e
  | equipped h => exact h.keeps
  | wrote hf hp => exact .refl e
  | rearmed h => exact h.keeps
  | submitFailed h => exact .refl e
  | submitted h => exact h.keeps
  | pollFailed h => exact ⟨rfl, rfl, rfl, fun _ _ b hf => ⟨b, hf, rfl, rfl⟩⟩
  | polled h => exact h.keeps

/-- An engine keeps its size. -/
theorem Effect.maxEvents_eq (h : Effect l e m l' e' m') : e'.maxEvents = e.maxEvents := by
  cases h with
  | nothing => rfl
  | allocationFailed h => rfl
  | equipped h => rw [h.engine]; rfl
  | wrote hf hp => rfl
  | rearmed h => rw [h.engine]; rfl
  | submitFailed h => rfl
  | submitted h => rw [maxEvents, h.records.1]; rfl
  | pollFailed h => rfl
  | polled h => exact h.maxEvents_eq

/-- An engine is sound throughout its run. -/
theorem Course.sound (h : Course env l e m) : Sound e := by
  induction h with
  | created hs h => exact (create_eq_ok h).sound
  | @called l e m call h ih => exact (perform_effect ih call l m).sound ih
  | passed h hw ih => exact ih

/-! ## Engines that are created with their endpoints -/

theorem equipAll_cons_eq_ok {plan : EndpointPlan} {plans : List EndpointPlan} {index : Nat}
    (h : Engine.equipAll index (plan :: plans) e m = (.ok (), e', m')) :
    ∃ e₁ m₁, e.equip index plan m = (.ok (), e₁, m₁) ∧
      Engine.equipAll (index + 1) plans e₁ m₁ = (.ok (), e', m') := by
  cases hq : e.equip index plan m with
  | mk outcome x =>
    obtain ⟨e₁, m₁⟩ := x
    cases outcome with
    | error f => simp [Engine.equipAll, hq] at h
    | ok u =>
      simp only [Engine.equipAll, hq] at h
      exact ⟨e₁, m₁, rfl, h⟩

theorem Course.equipAll {plans : List EndpointPlan} {index : Nat} (h : Course env l e m)
    (he : equipAll index plans e m = (.ok (), e', m')) :
    Course env (l.noteEquipAll index plans) e' m' := by
  induction plans generalizing index l e m with
  | nil =>
    simp only [Engine.equipAll, Prod.mk.injEq, true_and] at he
    obtain ⟨rfl, rfl⟩ := he
    exact h
  | cons plan plans ih =>
    obtain ⟨e₁, m₁, hq, hrest⟩ := equipAll_cons_eq_ok he
    have hnext := Course.called (.equip index plan) h
    simp only [Ledger.noteCall, perform, hq] at hnext
    exact ih hnext hrest

/-- What equipping one endpoint preserves, equipping several preserves, however it ends. -/
theorem equipAll_induction {P : Engine → Machine κ → Prop}
    (hstep : ∀ index plan e m, P e m → P (e.equip index plan m).2.1 (e.equip index plan m).2.2)
    (h : P e m) (index : Nat) (plans : List EndpointPlan) :
    P (Engine.equipAll index plans e m).2.1 (Engine.equipAll index plans e m).2.2 := by
  induction plans generalizing index e m with
  | nil => exact h
  | cons plan plans ih =>
    have hnext := hstep index plan e m h
    cases hq : e.equip index plan m with
    | mk outcome x =>
    rw [hq] at hnext
    cases outcome with
    | error f =>
      simp only [Engine.equipAll, hq]
      exact hnext
    | ok u =>
      simp only [Engine.equipAll, hq]
      exact ih hnext (index + 1)

/-- However equipping endpoints one after another ends, it is a course. -/
theorem Course.exists_equipAll (h : Course env l e m) (index : Nat) (plans : List EndpointPlan) :
    ∃ l', Course env l' (Engine.equipAll index plans e m).2.1 (Engine.equipAll index plans e m).2.2 := by
  refine equipAll_induction (P := fun e m => ∃ l', Course env l' e m) ?_ ⟨l, h⟩ index plans
  rintro index plan e m ⟨l', h⟩
  exact ⟨_, h.called (.equip index plan)⟩

/-- An engine that is created with its endpoints is created without them and then equipped. -/
theorem createEquipped_eq_ok {plans : List EndpointPlan} (h : createEquipped plans m = (.ok e, m')) :
    ∃ total e₁ m₁, create plans.length total m = (.ok e₁, m₁) ∧
      Engine.equipAll 0 plans e₁ m₁ = (.ok (), e, m') := by
  unfold createEquipped at h
  cases ht : totalCount plans 0 with
  | error err => simp [ht] at h
  | ok total =>
    cases hc : create plans.length total m with
    | mk outcome m₁ =>
      cases outcome with
      | error err => simp [ht, hc] at h
      | ok e₁ =>
        cases ha : Engine.equipAll 0 plans e₁ m₁ with
        | mk outcome x =>
          obtain ⟨e₂, m₂⟩ := x
          cases outcome with
          | error f => simp [ht, hc, ha] at h
          | ok u =>
            simp only [ht, hc, ha, Prod.mk.injEq, Except.ok.injEq] at h
            obtain ⟨rfl, rfl⟩ := h
            exact ⟨total, e₁, m₁, hc, ha⟩

/-- An engine that is created with all its endpoints has a run, in which they are equipped. -/
theorem Course.createdEquipped {plans : List EndpointPlan} (hs : env.start m)
    (h : createEquipped plans m = (.ok e, m')) :
    Course env (Ledger.empty.noteEquipAll 0 plans) e m' := by
  obtain ⟨total, e₁, m₁, hc, ha⟩ := createEquipped_eq_ok h
  exact (Course.created hs hc).equipAll ha

end Engine

end Gadget
