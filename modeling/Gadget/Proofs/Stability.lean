import Gadget.Proofs.FullFlight
/-!
# How long a completion can be named

A poll names its completions by their places in the record array, and the buffers behind them go their own
ways: one may be armed again and even be with the kernel while its index is still good. An index lasts until
the next poll, successful or not, since no other call touches the records (`perform_records`). A completed
buffer lasts longer: its slot names it until it is armed again (`Unarmed.phase?_completed`), through any
number of polls.
-/
namespace Gadget.Engine

variable {κ : Type} {e e' : Engine} {m m' : Machine κ} {s : Slot} {index : Nat} {r : Record}

/-! ## Access by slot -/

/-- The memory of a buffer can be had exactly while the buffer is completed. -/
theorem lend_eq_ok_iff : (∃ region, e.lend s = .ok region) ↔ e.phase? s = some .completed := by
  constructor
  · rintro ⟨region, h⟩
    rcases lend_cases s e with ⟨err, he⟩ | ⟨file, b, -, hf, hp⟩
    · rw [he] at h
      cases h
    · rw [phase?_eq, EndpointTable.phase?_of_find? hf, hp]
  · intro h
    obtain ⟨file, b, hf, hp⟩ := EndpointTable.phase?_eq_some_iff.1 h
    exact ⟨b.region, by simp [lend, EndpointTable.locate_of_find? hf, hp, Buffer.lend, Phase.isFree]⟩

/-- A buffer can be armed again exactly while it is completed. -/
theorem Sound.rearm_eq_ok_iff (hs : Sound e) (direction : Direction) (m : Machine κ) :
    (e.rearm s direction m).1 = .ok () ↔ e.phase? s = some .completed := by
  rw [hs.rearm_eq, rearmOutcome]
  split <;> simp_all

/-! ## Access by index -/

/-- The index names the completion `c`: it can be looked at unless its buffer is in flight again, and be
written and armed while its buffer is completed. The bytes are those that the buffer has by now. -/
structure Named (index : Nat) (c : Completion) (e : Engine) (m : Machine κ) : Prop where
  inspect : e.inspect index m =
    if e.phase? c.slot = some .inFlight then .error (.brokenContract (.submittedAgain c.slot))
    else .ok { c with data := e.bytesAt c.slot m }
  lend : (∃ region, e.lendAt index = .ok region) ↔ e.phase? c.slot = some .completed
  rearm : ∀ direction, (e.rearmAt index direction m).1 = .ok () ↔ e.phase? c.slot = some .completed

/-- The index names nothing, as there are `count` completions. -/
structure Unnamed (index count : Nat) (e : Engine) (m : Machine κ) : Prop where
  inspect : e.inspect index m = .error (.badArgument (.completionIndex index count))
  lend : e.lendAt index = .error (.error (.badArgument (.completionIndex index count)))
  rearm : ∀ direction,
    e.rearmAt index direction m = (.error (.badArgument (.completionIndex index count)), e, m)

/-- The index of a record names the completion that the record stands for. -/
theorem Sound.named (hs : Sound e) (hc : e.completed index = .ok r) {file : Int32} {b : Buffer}
    (hf : e.endpoints.find? r.slot = some (file, b)) (data : List UInt8) :
    Named index ⟨r.slot, file, r.result, b.header, data⟩ e m where
  inspect := by
    have hp : e.phase? r.slot = some b.phase := EndpointTable.phase?_of_find? hf
    simp only [Engine.inspect, hc, EndpointTable.locate_of_find? hf, hp, bytesAt_of_find? hf,
      Option.some.injEq]
  lend := by
    rw [show e.lendAt index = e.lend r.slot by simp only [lendAt, hc]]
    exact lend_eq_ok_iff
  rearm direction := by
    rw [rearmAt_eq hc]
    exact hs.rearm_eq_ok_iff direction m

theorem unnamed_of_ready_le (h : e.ready ≤ index) : Unnamed index e.ready e m := by
  have hc : e.completed index = .error (.badArgument (.completionIndex index e.ready)) := by
    rw [completed, List.getElem?_eq_none (by rw [List.length_take]; omega)]
  exact ⟨by simp only [inspect, hc], by simp only [lendAt, hc], fun direction => rearmAt_error hc⟩

/-- The completions are what can be inspected by the indices below their number. -/
theorem getElem?_delivered (m : Machine κ) (h : index < e.ready) :
    (e.delivered m)[index]? = some (e.inspect index m) := by
  rw [delivered, List.getElem?_map, List.getElem?_range h]
  rfl

theorem length_delivered (e : Engine) (m : Machine κ) : (e.delivered m).length = e.ready := by
  rw [delivered, List.length_map, List.length_range]

variable [Kernel κ]

/-! ## Calls between polls -/

/-- No call but a poll touches the records. -/
theorem perform_records (hs : Sound e) {call : EngineCall} (h : call ≠ .poll) (m : Machine κ) :
    (e.perform call m).2.1.records = e.records ∧ (e.perform call m).2.1.ready = e.ready := by
  have hrearm : ∀ slot direction, (e.rearm slot direction m).2.1.records = e.records ∧
      (e.rearm slot direction m).2.1.ready = e.ready := by
    intro slot direction
    rcases rearm_cases slot direction e m with ⟨err, he⟩ | ⟨file, b, e', m', he, hr⟩ <;> rw [he]
    · exact ⟨rfl, rfl⟩
    · rw [hr.engine]
      exact ⟨rfl, rfl⟩
  cases call with
  | poll => exact absurd rfl h
  | equip index plan =>
    simp only [perform]
    rcases equip_cases hs index plan m with ⟨err, k, m', he, -⟩ | ⟨buffers, e', m', he, hq⟩ <;> rw [he]
    · exact ⟨rfl, rfl⟩
    · rw [hq.engine]
      exact ⟨rfl, rfl⟩
  | submit =>
    simp only [perform]
    rcases submit_cases hs m with ⟨-, he⟩ | ⟨errno, m', he, -⟩ | ⟨count, e', m', he, hsub⟩ <;> rw [he]
    · exact ⟨rfl, rfl⟩
    · exact ⟨rfl, rfl⟩
    · exact hsub.records
  | rearm slot direction => exact hrearm slot direction
  | rearmAt index direction =>
    cases hc : e.completed index with
    | error err =>
      simp only [perform, rearmAt_error hc, and_self]
    | ok r =>
      simp only [perform, rearmAt_eq hc]
      exact hrearm r.slot direction
  | write slot start bytes => exact ⟨rfl, rfl⟩
  | writeAt index start bytes => exact ⟨rfl, rfl⟩
  | inspect index => exact ⟨rfl, rfl⟩
  | delivered => exact ⟨rfl, rfl⟩
  | size => exact ⟨rfl, rfl⟩
  | endpoint index => exact ⟨rfl, rfl⟩
  | phase slot => exact ⟨rfl, rfl⟩

/-- What calls of a kind can lead to from an engine and a machine on. Between two calls the machine may
become anything. -/
inductive Onward (allowed : Engine → Machine κ → EngineCall → Prop) (e : Engine) (m : Machine κ) :
    Engine → Machine κ → Prop
  | here : Onward allowed e m e m
  | called {e' : Engine} {m' : Machine κ} (call : EngineCall) (h : Onward allowed e m e' m')
    (ha : allowed e' m' call) :
    Onward allowed e m (e'.perform call m').2.1 (e'.perform call m').2.2
  | passed {e' : Engine} {m' m'' : Machine κ} (h : Onward allowed e m e' m') : Onward allowed e m e' m''

/-- What calls between two polls lead to. -/
def Unpolled : Engine → Machine κ → Engine → Machine κ → Prop := Onward fun _ _ call => call ≠ .poll

/-- The call arms the buffer in the slot again, named directly or by an index. -/
def Rearms (s : Slot) (e : Engine) (m : Machine κ) (call : EngineCall) : Prop :=
  e.target? call = some s ∧ (e.perform call m).1 = .ok .done

/-- What calls lead to none of which arms the buffer in the slot again. -/
def Unarmed (s : Slot) : Engine → Machine κ → Engine → Machine κ → Prop :=
  Onward fun e m call => ¬ Rearms s e m call

namespace Onward

variable {allowed : Engine → Machine κ → EngineCall → Prop}

theorem sound (h : Onward allowed e m e' m') (hs : Sound e) : Sound e' := by
  induction h with
  | here => exact hs
  | called call h ha ih => exact (perform_effect ih call .empty _).sound ih
  | passed h ih => exact ih

theorem keeps (h : Onward allowed e m e' m') (hs : Sound e) : Keeps e e' := by
  induction h with
  | here => exact .refl e
  | called call h ha ih => exact ih.trans (perform_effect (h.sound hs) call .empty _).keeps
  | passed h ih => exact ih

end Onward

/-- As long as nothing is polled, the completions of the last poll are the same. -/
theorem Unpolled.records (h : Unpolled e m e' m') (hs : Sound e) :
    e'.records = e.records ∧ e'.ready = e.ready := by
  induction h with
  | here => exact ⟨rfl, rfl⟩
  | @called e' m' call h ha ih =>
    obtain ⟨hrecords, hready⟩ := perform_records (h.sound hs) ha m'
    exact ⟨hrecords.trans ih.1, hready.trans ih.2⟩
  | passed h ih => exact ih

/-- As long as a completed buffer is not armed again, it stays completed. -/
theorem Unarmed.phase?_completed (h : Unarmed s e m e' m') (hs : Sound e)
    (hp : e.phase? s = some .completed) : e'.phase? s = some .completed := by
  induction h with
  | here => exact hp
  | passed h ih => exact ih
  | @called e' m' call h ha ih =>
    rcases perform_phase (h.sound hs) call m' s with hsame | hmove
    · exact hsame.trans ih
    · -- the only way on from here is to be armed, and the call that does it is not allowed
      rw [ih] at hmove
      generalize hnew : (e'.perform call m').2.1.phase? s = phase at hmove
      have ht : e'.target? call = some s := by
        cases hmove with
        | rearm direction => rfl
        | rearmAt direction hc hr =>
          rw [target?, hc, ← hr]
          rfl
      obtain ⟨direction, file, b, e'', m'', he, -⟩ := (h.sound hs).perform_of_target ht ih m'
      exact absurd ⟨ht, by rw [he]⟩ ha

/-! ## From a poll on -/

/-- A record that counted in a poll is named by its place until the next poll. -/
theorem Polled.named {received : Nat} {written valid : List Record}
    {refused : List (Record × TransferError)} (h : Polled received written valid refused e m e' m')
    (hs : Sound e) {i : Nat} (hi : i < valid.length) :
    ∃ c, e'.inspect i m' = .ok c ∧ ∀ e₂ m₂, Unpolled e' m' e₂ m₂ → Named i c e₂ m₂ := by
  have hphase := h.phase?_of_valid (List.getElem_mem hi)
  obtain ⟨file, b, hf, -⟩ := EndpointTable.phase?_eq_some_iff.1 hphase
  let c : Completion := ⟨valid[i].slot, file, valid[i].result, b.header, e'.bytesAt valid[i].slot m'⟩
  have hnamed : ∀ e₂ m₂, Unpolled e' m' e₂ m₂ → Named i c e₂ m₂ := by
    intro e₂ m₂ ho
    obtain ⟨hrecords, hready⟩ := ho.records (h.sound hs)
    obtain ⟨b₂, hf₂, -, hheader⟩ := (ho.keeps (h.sound hs)).find? _ file b hf
    have hc : e₂.completed i = .ok valid[i] := by
      rw [completed, hrecords, hready, h.delivered, List.getElem?_eq_getElem hi]
    have hn := (ho.sound (h.sound hs)).named (m := m₂) hc hf₂ c.data
    rwa [hheader] at hn
  refine ⟨c, ?_, hnamed⟩
  have hcompleted : e'.phase? c.slot = some .completed := hphase
  rw [(hnamed e' m' .here).inspect, hcompleted]
  rfl

/-- **Completions can be named until the next poll, and completed buffers until they are armed again**, beside
any kernel. After a poll that delivered `n` completions, and any calls but polls, an index below `n` names
the completion that it named at first; an index from `n` on names nothing, and the completions are `n` and
what can be inspected. After a poll that failed no index names anything. A completed buffer stays completed
through any calls, polls too, as long as none of them arms it; it can be written and armed all along. -/
theorem Reachable.completions_stable (h : Reachable e m) :
    (∀ n e₁ m₁, e.poll m = (.ok n, e₁, m₁) →
      (∀ i < n, ∃ c, e₁.inspect i m₁ = .ok c ∧
        ∀ e' m', Unpolled e₁ m₁ e' m' → Named i c e' m') ∧
      ∀ e' m', Unpolled e₁ m₁ e' m' →
        (∀ i, n ≤ i → Unnamed i n e' m') ∧ (e'.delivered m').length = n ∧
          ∀ i < n, (e'.delivered m')[i]? = some (e'.inspect i m')) ∧
    (∀ f e₁ m₁, e.poll m = (.error f, e₁, m₁) →
      ∀ e' m', Unpolled e₁ m₁ e' m' →
        (∀ i, Unnamed i 0 e' m') ∧ e'.delivered m' = []) ∧
    (∀ s, e.phase? s = some .completed →
      ∀ e' m', Unarmed s e m e' m' →
        e'.phase? s = some .completed ∧ (∃ region, e'.lend s = .ok region) ∧
          ∀ direction, (e'.rearm s direction m').1 = .ok ()) := by
  have hs := h.sound
  refine ⟨fun n e₁ m₁ hpoll => ?_, fun f e₁ m₁ hpoll e' m' ho => ?_, fun s hp e' m' ho => ?_⟩
  · rcases poll_cases hs m with ⟨errno, m', he, -⟩ | ⟨received, written, valid, refused, e', m', he, hp⟩ <;>
      rw [he] at hpoll
    · cases hpoll
    obtain ⟨hn, rfl, rfl⟩ : pollOutcome valid refused = .ok n ∧ e' = e₁ ∧ m' = m₁ := by simpa using hpoll
    cases pollOutcome_eq_ok hn
    refine ⟨fun i hi => ?_, fun e₂ m₂ ho => ?_⟩
    · exact hp.named hs hi
    · have hready : e₂.ready = valid.length := (ho.records (hp.sound hs)).2.trans hp.ready
      rw [← hready]
      exact ⟨fun i hi => unnamed_of_ready_le hi, length_delivered e₂ m₂,
        fun i hi => getElem?_delivered m₂ hi⟩
  · have hs₁ : Sound e₁ := by
      have hsound := (perform_effect hs .poll .empty m).sound hs
      rwa [perform, hpoll] at hsound
    have hready : e'.ready = 0 := (ho.records hs₁).2.trans (poll_error hs hpoll).1
    refine ⟨fun i => ?_, ?_⟩
    · rw [← hready]
      exact unnamed_of_ready_le (by omega)
    · rw [← List.length_eq_zero_iff, length_delivered, hready]
  · have hp' := ho.phase?_completed hs hp
    exact ⟨hp', lend_eq_ok_iff.2 hp', fun direction => ((ho.sound hs).rearm_eq_ok_iff direction m').2 hp'⟩

/-- Three buffers came back in another order than they went, the first to come back is with the kernel
again and the second waits for it: the indices of the second and the third still name them. Then a poll
fails, and the third buffer can be armed by its slot alone. -/
theorem Reachable.staggered_completions_stable : ∃ (e e₁ e₂ e₃ : Engine)
    (m m₁ m₂ m₃ : Machine SimulatedKernel) (c₀ c₁ c₂ : Completion) (f : Fault),
    Reachable e m ∧ e.poll m = (.ok 3, e₁, m₁) ∧ Unpolled e₁ m₁ e₂ m₂ ∧
      e₂.phases = [some [.armed, .inFlight, .completed]] ∧
      Named 0 c₀ e₂ m₂ ∧ Named 1 c₁ e₂ m₂ ∧ Named 2 c₂ e₂ m₂ ∧ Unnamed 3 3 e₂ m₂ ∧
      e₂.poll m₂ = (.error f, e₃, m₃) ∧ Unnamed 2 0 e₃ m₃ ∧
      (e₃.rearm ⟨0, 2⟩ .write m₃).1 = .ok () := by
  let steps : List Step := [.command (.createEquipped [⟨7, .read, 3, 4, 0⟩]), .command (.call .submit),
    .kernel (.complete ⟨0, 1⟩ [8] 1), .kernel (.complete ⟨0, 0⟩ [] (-5)),
    .kernel (.complete ⟨0, 2⟩ [1, 2, 3] 3)]
  let call (c : EngineCall) (x : Engine × Machine SimulatedKernel) : Engine × Machine SimulatedKernel :=
    (x.1.perform c x.2).2
  let after (x : Engine × Machine SimulatedKernel) : Engine × Machine SimulatedKernel :=
    call (.rearmAt 1 .read) (call .submit (call (.rearmAt 0 .write) x))
  obtain ⟨e, m, hr, hpoll, hphases, hphase, hfail⟩ : ∃ (e : Engine) (m : Machine SimulatedKernel),
      Reachable e m ∧ (e.poll m).1 = .ok 3 ∧
        (after (e.poll m).2).1.phases = [some [.armed, .inFlight, .completed]] ∧
        (after (e.poll m).2).1.phase? ⟨0, 2⟩ = some .completed ∧
        ((after (e.poll m).2).1.poll (after (e.poll m).2).2).1 = .error (.error (.callFailed .again)) := by
    have hrun : (Watched.run steps).session.engine.map (fun e =>
        let x := after (e.poll (Watched.run steps).session.machine).2
        ((e.poll (Watched.run steps).session.machine).1, x.1.phases, x.1.phase? ⟨0, 2⟩,
          (x.1.poll x.2).1)) =
        some (.ok 3, [some [.armed, .inFlight, .completed]], some .completed,
          .error (.error (.callFailed .again))) := by decide +kernel
    obtain ⟨e, he, hrun⟩ := Option.map_eq_some_iff.1 hrun
    simp only [Prod.mk.injEq] at hrun
    exact ⟨e, _, (SingleEngine.course (by decide : SingleEngine (fun _ => True) steps) he).reachable, hrun⟩
  -- the three calls after the poll
  have ho : ∀ x, Unpolled x.1 x.2 (after x).1 (after x).2 := fun x =>
    ((Onward.here.called (.rearmAt 0 .write) (by decide)).called .submit (by decide)).called
      (.rearmAt 1 .read) (by decide)
  have hr₂ : ∀ x : Engine × Machine SimulatedKernel, Reachable x.1 x.2 →
      Reachable (after x).1 (after x).2 := fun x h =>
    ((h.called (.rearmAt 0 .write)).called .submit).called (.rearmAt 1 .read)
  replace ho := ho (e.poll m).2
  replace hr₂ := hr₂ (e.poll m).2 (hr.called .poll)
  generalize after (e.poll m).2 = x₂ at hphases hphase hfail ho hr₂
  obtain ⟨hnamed, hrest⟩ := (Reachable.completions_stable hr).1 3 _ _ (Prod.ext hpoll rfl)
  obtain ⟨c₀, -, h₀⟩ := hnamed 0 (by omega)
  obtain ⟨c₁, -, h₁⟩ := hnamed 1 (by omega)
  obtain ⟨c₂, -, h₂⟩ := hnamed 2 (by omega)
  -- the poll that fails
  obtain ⟨-, hfailed, hkept⟩ := Reachable.completions_stable hr₂
  have hunarmed : Unarmed ⟨0, 2⟩ x₂.1 x₂.2 (x₂.1.poll x₂.2).2.1 (x₂.1.poll x₂.2).2.2 :=
    Onward.here.called .poll (by simp [Rearms, target?])
  exact ⟨e, _, x₂.1, _, m, _, x₂.2, _, c₀, c₁, c₂, _, hr, Prod.ext hpoll rfl, ho, hphases,
    h₀ _ _ ho, h₁ _ _ ho, h₂ _ _ ho, (hrest _ _ ho).1 3 (Nat.le_refl 3), Prod.ext hfail rfl,
    (hfailed _ _ _ (Prod.ext hfail rfl) _ _ .here).1 2, (hkept _ hphase _ _ hunarmed).2.2 .write⟩

end Gadget.Engine
