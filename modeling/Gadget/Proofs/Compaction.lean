import Gadget.Proofs.Runs
/-!
# What a poll makes of a batch

The sweep of a poll writes into the array that it reads from and changes the phases that it decides by.
Which records it keeps can be said without either: those of a buffer in flight that no earlier record of
the batch is about (`EndpointTable.Counts`), where in flight means before the poll. The others come with a
reason that depends on their slot alone (`breach`), and the buffers of the records that are kept, no
others, are completed (`finish`). `settle_eq` says so of the pass over the batch, for any table and any
records, and `poll_eq_specification` of the whole call.
-/
namespace Gadget

namespace EndpointTable

variable {t : EndpointTable} {s slot : Slot} {file : Int32} {b : Buffer} {r x : Record}
  {batch : List Record} {j : Nat}

/-! ## The specification -/

/-- The record at place `j` of a batch is about a buffer in flight, and no earlier one is. -/
def Counts (t : EndpointTable) (batch : List Record) (j : Nat) (r : Record) : Prop :=
  t.phase? r.slot = some .inFlight ∧ ∀ i < j, ∀ x, batch[i]? = some x → x.slot ≠ r.slot

instance (t : EndpointTable) (batch : List Record) (j : Nat) (r : Record) :
    Decidable (t.Counts batch j r) :=
  decidable_of_iff (t.phase? r.slot = some .inFlight ∧ ∀ i < j, ∀ x ∈ batch[i]?, x.slot ≠ r.slot) <| by
    simp only [Counts, Option.mem_def]

/-- The records of a batch that pass a test on their place and themselves, in order. -/
def picked (test : Nat → Record → Bool) (batch : List Record) : List Record :=
  (batch.zipIdx.filter fun x => test x.2 x.1).map Prod.fst

/-- The records of a batch that count, in order. -/
def counted (batch : List Record) (t : EndpointTable) : List Record :=
  picked (fun j r => t.Counts batch j r) batch

/-- The other records of a batch, in order. -/
def strays (batch : List Record) (t : EndpointTable) : List Record :=
  picked (fun j r => ¬ t.Counts batch j r) batch

/-- What speaks against a record about a slot that does not count. If the buffer was in flight, an earlier
record has completed it. -/
def breach (slot : Slot) (t : EndpointTable) : ContractBreach :=
  match t.phase? slot with
  | none => .unknownSlot slot
  | some .inFlight => .notInFlight slot .completed
  | some p => .notInFlight slot p

/-- The table with the buffers in the given slots completed. -/
def finish (slots : List Slot) (t : EndpointTable) : EndpointTable where
  entries := t.entries.mapIdx fun i entry => entry.map fun p => { p with
    buffers := p.buffers.mapIdx fun j b =>
      if ∃ s ∈ slots, s.endpoint.toNat = i ∧ s.buffer.toNat = j then b.inPhase .completed else b }

/-! ## One record -/

theorem phase?_replace (hf : t.find? slot = some (file, b)) (p : Phase) (s : Slot) :
    (t.replace slot (b.inPhase p)).phase? s = if s = slot then some p else t.phase? s := by
  rw [phase?, find?_replace hf]
  split
  · rfl
  · rfl

/-- A record that comes after one that was refused counts as if that had not been there. -/
theorem counts_cons_of_refused (h : t.phase? r.slot ≠ some .inFlight) :
    t.Counts (r :: batch) (j + 1) x ↔ t.Counts batch j x := by
  constructor
  · rintro ⟨hp, hfirst⟩
    refine ⟨hp, ?_⟩
    intro i hi y hy
    exact hfirst (i + 1) (Nat.succ_lt_succ hi) y hy
  · rintro ⟨hp, hfirst⟩
    refine ⟨hp, ?_⟩
    intro i hi y hy
    cases i with
    | zero =>
      -- the buffer of the first record is not in flight, so this one is about another
      intro heq
      cases hy
      exact h (heq ▸ hp)
    | succ i => exact hfirst i (Nat.lt_of_succ_lt_succ hi) y hy

/-- A record that comes after one that counted is judged by the table with that buffer completed. -/
theorem counts_cons_of_inFlight (hf : t.find? r.slot = some (file, b)) :
    t.Counts (r :: batch) (j + 1) x ↔
      (t.replace r.slot (b.inPhase .completed)).Counts batch j x := by
  unfold Counts
  rw [phase?_replace hf]
  constructor
  · rintro ⟨hp, hfirst⟩
    have hne : x.slot ≠ r.slot := fun heq => hfirst 0 (Nat.succ_pos j) r rfl heq.symm
    rw [if_neg hne]
    refine ⟨hp, ?_⟩
    intro i hi y hy
    exact hfirst (i + 1) (Nat.succ_lt_succ hi) y hy
  · rintro ⟨hp, hfirst⟩
    have hne : x.slot ≠ r.slot := by
      intro heq
      rw [if_pos heq] at hp
      cases hp
    rw [if_neg hne] at hp
    refine ⟨hp, ?_⟩
    intro i hi y hy
    cases i with
    | zero =>
      cases hy
      exact hne.symm
    | succ i => exact hfirst i (Nat.lt_of_succ_lt_succ hi) y hy

theorem counts_zero : t.Counts batch 0 r ↔ t.phase? r.slot = some .inFlight := by
  constructor
  · rintro ⟨hp, -⟩
    exact hp
  · intro hp
    exact ⟨hp, fun i hi => absurd hi (Nat.not_lt_zero i)⟩

/-- The reason against a record does not change when an earlier one counts. -/
theorem breach_replace (hf : t.find? slot = some (file, b)) (hb : b.phase = .inFlight) (s : Slot) :
    (t.replace slot (b.inPhase .completed)).breach s = t.breach s := by
  unfold breach
  rw [phase?_replace hf]
  by_cases hs : s = slot
  · subst hs
    rw [if_pos rfl, phase?_of_find? hf, hb]
  · rw [if_neg hs]

theorem complete_eq_error (h : t.phase? s ≠ some .inFlight) :
    t.complete s = .error (.brokenContract (t.breach s)) := by
  unfold breach
  cases hf : t.find? s with
  | none => simp only [complete, locate_of_none hf, phase?, hf, Option.map_none]
  | some found =>
    obtain ⟨file, b⟩ := found
    have hp : b.phase ≠ .inFlight := fun hp => h (by rw [phase?_of_find? hf, hp])
    simp only [complete, locate_of_find? hf, Buffer.complete, if_neg hp, phase?_of_find? hf]

/-! ## The first record of a batch -/

theorem picked_cons (test : Nat → Record → Bool) (r : Record) (batch : List Record) :
    picked test (r :: batch) =
      (if test 0 r then [r] else []) ++ picked (fun j => test (j + 1)) batch := by
  have hrest : ((batch.zipIdx 1).filter fun x => test x.2 x.1).map Prod.fst =
      picked (fun j => test (j + 1)) batch := by
    rw [List.zipIdx_succ, List.filter_map, List.map_map]
    rfl
  unfold picked at hrest ⊢
  rw [List.zipIdx_cons, List.filter_cons, ← hrest]
  by_cases hr : test 0 r
  · rw [if_pos hr, if_pos hr]
    rfl
  · rw [if_neg hr, if_neg hr]
    rfl

theorem cons_of_refused (h : t.phase? r.slot ≠ some .inFlight) (batch : List Record) :
    t.counted (r :: batch) = t.counted batch ∧ t.strays (r :: batch) = r :: t.strays batch := by
  unfold counted strays
  rw [picked_cons, picked_cons]
  simp only [counts_cons_of_refused h, counts_zero, h, decide_false, not_false_eq_true, decide_true,
    if_true]
  exact ⟨rfl, rfl⟩

theorem cons_of_inFlight (hf : t.find? r.slot = some (file, b)) (hb : b.phase = .inFlight)
    (batch : List Record) :
    t.counted (r :: batch) = r :: (t.replace r.slot (b.inPhase .completed)).counted batch ∧
      t.strays (r :: batch) = (t.replace r.slot (b.inPhase .completed)).strays batch := by
  have hp : t.phase? r.slot = some .inFlight := by rw [phase?_of_find? hf, hb]
  unfold counted strays
  rw [picked_cons, picked_cons]
  simp only [counts_cons_of_inFlight hf, counts_zero, hp, decide_true, not_true_eq_false, decide_false,
    if_true]
  exact ⟨rfl, rfl⟩

/-! ## Completing buffers -/

theorem finish_nil (t : EndpointTable) : t.finish [] = t := by
  unfold finish
  rw [EndpointTable.mk.injEq]
  apply List.ext_getElem?
  intro i
  rw [List.getElem?_mapIdx]
  cases t.entries[i]? with
  | none => rfl
  | some entry =>
    cases entry with
    | none => rfl
    | some p => simp [List.mapIdx_eq_zipIdx_map]

/-- Completing the buffer of a slot and then others is completing them all. -/
theorem finish_cons (hf : t.find? slot = some (file, b)) (slots : List Slot) :
    t.finish (slot :: slots) = (t.replace slot (b.inPhase .completed)).finish slots := by
  obtain ⟨p, hp, -, hb⟩ := find?_eq_some_iff.1 hf
  unfold finish replace
  rw [EndpointTable.mk.injEq]
  apply List.ext_getElem?
  intro i
  rw [List.getElem?_mapIdx, List.getElem?_mapIdx, List.getElem?_modify]
  by_cases hi : slot.endpoint.toNat = i
  · subst hi
    simp only [hp, Option.map_some, if_true, Option.map_eq_map, Option.some.injEq, Endpoint.mk.injEq,
      true_and]
    apply List.ext_getElem?
    intro j
    rw [List.getElem?_mapIdx, List.getElem?_mapIdx, List.getElem?_set]
    by_cases hj : slot.buffer.toNat = j
    · subst hj
      obtain ⟨hlt, rfl⟩ := List.getElem?_eq_some_iff.1 hb
      simp [hlt]
    · simp [hj]
  · cases hentry : t.entries[i]? with
    | none => rfl
    | some entry =>
      cases entry with
      | none => simp
      | some q => simp [hi]

/-! ## The pass over a batch -/

/-- **The pass over a batch** keeps the records that count, refuses the others with their reasons, and
completes the buffers of those that it keeps. -/
theorem settle_eq (batch : List Record) (t : EndpointTable) :
    t.settle batch = (t.counted batch,
      (t.strays batch).map fun r => (r, .brokenContract (t.breach r.slot)),
      t.finish ((t.counted batch).map Record.slot)) := by
  induction batch generalizing t with
  | nil =>
    have hnone : t.counted [] = [] ∧ t.strays [] = [] := ⟨rfl, rfl⟩
    rw [hnone.1, hnone.2, List.map_nil, List.map_nil, finish_nil]
    rfl
  | cons r batch ih =>
    by_cases hp : t.phase? r.slot = some .inFlight
    · obtain ⟨file, b, hf, hb⟩ := phase?_eq_some_iff.1 hp
      obtain ⟨hcounted, hstrays⟩ := cons_of_inFlight hf hb batch
      simp only [settle, complete_of_inFlight hf hb, ih, hcounted, hstrays, breach_replace hf hb,
        List.map_cons, finish_cons hf]
    · obtain ⟨hcounted, hstrays⟩ := cons_of_refused hp batch
      simp only [settle, complete_eq_error hp, ih, hcounted, hstrays, List.map_cons]

/-- If no record of a batch counts, the first is the first of those that do not. -/
theorem strays_of_counted_eq_nil (h : t.counted batch = []) : (t.strays batch).head? = batch.head? := by
  cases batch with
  | nil => rfl
  | cons r batch =>
    by_cases hp : t.phase? r.slot = some .inFlight
    · obtain ⟨file, b, hf, hb⟩ := phase?_eq_some_iff.1 hp
      rw [(cons_of_inFlight hf hb batch).1] at h
      cases h
    · rw [(cons_of_refused hp batch).2]
      rfl

end EndpointTable

namespace Engine

variable {κ : Type} [Kernel κ] {e : Engine} {m m₁ m₂ : Machine κ} {signaled : UInt64} {count : Nat}
  {records : List Record}

/-! ## The whole call -/

theorem wait_frame (h : e.doorbell.wait m = (.ok signaled, m₁)) :
    m₁.memory = m.memory ∧ m₁.events = m.events := by
  unfold Doorbell.wait Machine.readCounter at h
  split at h
  · cases h
  · simp only [Prod.mk.injEq] at h
    rw [← h.2]
    exact ⟨rfl, rfl⟩

/-- The kernel writes records over those of the array, which keeps its length. -/
theorem collect_frame (h : e.context.collect 1 e.records m₁ = (.ok count, records, m₂)) :
    records.length = e.maxEvents ∧ m₂.memory = m₁.memory ∧ m₂.events = m₁.events := by
  unfold IoContext.collect Machine.getEvents at h
  split at h
  · cases h
  split at h
  · cases h
  · rename_i written k hget
    simp only [Prod.mk.injEq, Except.ok.injEq] at h
    obtain ⟨-, rfl, rfl⟩ := h
    exact ⟨length_array written e, rfl, rfl⟩

/-- A poll that both its kernel calls let through is the pass over its batch. -/
theorem poll_of_settle (hwait : e.doorbell.wait m = (.ok signaled, m₁))
    (hcollect : e.context.collect 1 e.records m₁ = (.ok count, records, m₂)) {valid : List Record}
    {refused : List (Record × TransferError)} {t : EndpointTable}
    (hset : e.endpoints.settle (records.take count) = (valid, refused, t)) :
    e.poll m = (pollOutcome valid refused, { e with
      endpoints := t
      records := valid ++ records.drop valid.length
      ready := valid.length },
      (m₂.logAll (refused.map fun (r, err) => .discarded r.slot r.result err)).log
        (.polled signaled (min count records.length) valid.length)) := by
  simp only [poll, hwait, hcollect, Sweep.run_min hset]
  cases refused with
  | nil => cases valid <;> rfl
  | cons x rest => cases valid <;> rfl

/-- What a poll answers, in terms of the batch. -/
theorem pollOutcome_settled (t : EndpointTable) (batch : List Record) :
    pollOutcome (t.counted batch)
      ((t.strays batch).map fun r => (r, .brokenContract (t.breach r.slot))) =
      match t.counted batch, batch with
      | [], r :: _ => .error (.error (.brokenContract (t.breach r.slot)))
      | _, _ => .ok (t.counted batch).length := by
  cases hc : t.counted batch with
  | cons r rest => rfl
  | nil =>
    have hhead := EndpointTable.strays_of_counted_eq_nil hc
    cases batch with
    | nil => rfl
    | cons r rest =>
      obtain ⟨others, hothers⟩ : ∃ others, t.strays (r :: rest) = r :: others := by
        rw [List.head?_cons] at hhead
        exact List.head?_eq_some_iff.1 hhead
      rw [hothers]
      rfl

/-- **The compaction of a poll meets its specification**, for every engine and whatever the kernel wrote.
The batch are the records that it reported, but no more than fit the array, and of those the records that
count are the ones about a buffer in flight that no earlier record is about. After the poll they are at the
front of the array, in order and as they were, and are all that can be looked at; their buffers, and no
others, went from in flight to completed; each other record is reported with a warning, in order. Descriptors,
memory, the backlog and the rest of the engine stay as they were. The poll answers how many records count;
if there are records and none counts, it fails with the reason against the first. -/
theorem poll_eq_specification (hwait : e.doorbell.wait m = (.ok signaled, m₁))
    (hcollect : e.context.collect 1 e.records m₁ = (.ok count, records, m₂)) :
    let batch := records.take count
    let counted := e.endpoints.counted batch
    let discards := (e.endpoints.strays batch).map fun r =>
      Event.discarded r.slot r.result (.brokenContract (e.endpoints.breach r.slot))
    (e.poll m =
      (match counted, batch with
        | [], r :: _ => .error (.error (.brokenContract (e.endpoints.breach r.slot)))
        | _, _ => .ok counted.length,
      { e with
        endpoints := e.endpoints.finish (counted.map Record.slot)
        records := counted ++ records.drop counted.length
        ready := counted.length },
      (m₂.logAll discards).log (.polled signaled batch.length counted.length))) ∧
    batch.length = min count e.maxEvents ∧
    (counted.Sublist batch ∧ (counted.map Record.slot).Nodup ∧
      discards.length = batch.length - counted.length ∧ ∀ event ∈ discards, event.level = .warn) ∧
    (∀ s, (e.poll m).2.1.phase? s =
      if s ∈ counted.map Record.slot then some .completed else e.phase? s) ∧
    (∀ s ∈ counted.map Record.slot, e.phase? s = some .inFlight) ∧
    (∀ s, (e.poll m).2.1.endpoints.descriptorAt s = e.endpoints.descriptorAt s) ∧
    (e.poll m).2.2.memory = m.memory ∧
    (e.poll m).2.2.events = m.events ++ discards ++ [.polled signaled batch.length counted.length] := by
  intro batch counted discards
  obtain ⟨hmemory₁, hevents₁⟩ := wait_frame hwait
  obtain ⟨hlength, hmemory₂, hevents₂⟩ := collect_frame hcollect
  have hbatch : batch.length = min count records.length := List.length_take
  have hsettle := EndpointTable.settle_eq batch e.endpoints
  have hspec := EndpointTable.settle_spec batch e.endpoints
  rw [hsettle] at hspec
  have hrefused : counted.length + (e.endpoints.strays batch).length = batch.length := by
    simpa only [List.length_map] using hspec.length
  have hpoll := poll_of_settle hwait hcollect hsettle
  rw [List.map_map, ← hbatch] at hpoll
  have hafter : (e.poll m).2.1.endpoints = e.endpoints.finish (counted.map Record.slot) := by rw [hpoll]
  refine ⟨?_, by rw [hbatch, hlength], ⟨hspec.sublist, hspec.nodup, ?_, ?_⟩, ?_, ?_, ?_, ?_, ?_⟩
  · rw [hpoll, pollOutcome_settled]
    rfl
  · rw [List.length_map]
    omega
  · intro event hevent
    obtain ⟨r, -, rfl⟩ := List.mem_map.1 hevent
    rfl
  · intro s
    rw [phase?_eq, hafter, hspec.moved.phase?_eq]
    split
    · rename_i hs
      obtain ⟨r, hr, rfl⟩ := List.mem_map.1 hs
      rw [hspec.inFlight r hr]
      rfl
    · rfl
  · intro s hs
    obtain ⟨r, hr, rfl⟩ := List.mem_map.1 hs
    exact hspec.inFlight r hr
  · intro s
    rw [hafter]
    exact hspec.moved.descriptorAt_eq s
  · rw [hpoll, ← hmemory₁, ← hmemory₂]
    rfl
  · rw [hpoll, ← hevents₁, ← hevents₂]
    rfl

/-- Two of three buffers are in flight. The kernel completes both, and makes up a record of no buffer, a
second one of the buffer that it completed first, and one of the buffer that it never took. -/
def mixedBatchRun : List Step :=
  [.command (.create 1 8), .command (.call (.equip 0 ⟨7, .read, 3, 2, 1⟩)), .kernel (.limitSubmit 2),
    .command (.call .submit), .kernel (.inject (Slot.toTag ⟨9, 9⟩) 4),
    .kernel (.complete ⟨0, 1⟩ [5] 1), .kernel (.inject (Slot.toTag ⟨0, 1⟩) 7),
    .kernel (.inject (Slot.toTag ⟨0, 2⟩) 1), .kernel (.complete ⟨0, 0⟩ [] (-5))]

/-- The two true records are moved to the front, and the other three are reported. -/
theorem poll_eq_specification_mixed : ∃ (e : Engine) (m m₁ m₂ : Machine SimulatedKernel)
    (records : List Record), e.doorbell.wait m = (.ok 5, m₁) ∧
      e.context.collect 1 e.records m₁ = (.ok 5, records, m₂) ∧
      (records.take 5).map Record.slot = [⟨9, 9⟩, ⟨0, 1⟩, ⟨0, 1⟩, ⟨0, 2⟩, ⟨0, 0⟩] ∧
      (e.poll m).1 = .ok 2 ∧
      ((e.poll m).2.1.records.take 2).map (fun r => (r.slot, r.result)) =
        [(⟨0, 1⟩, 1), (⟨0, 0⟩, -5)] ∧
      (e.poll m).2.1.phases = [some [.completed, .completed, .armed]] ∧
      (e.poll m).2.2.memory = m.memory := by
  let m := (Watched.run mixedBatchRun).session.machine
  have hkernel : (Watched.run mixedBatchRun).session.engine.map (fun e =>
      ((e.doorbell.wait m).1, (e.context.collect 1 e.records (e.doorbell.wait m).2).1,
        ((e.context.collect 1 e.records (e.doorbell.wait m).2).2.1.take 5).map Record.slot)) =
      some (.ok 5, .ok 5, [⟨9, 9⟩, ⟨0, 1⟩, ⟨0, 1⟩, ⟨0, 2⟩, ⟨0, 0⟩]) := by decide +kernel
  have hpoll : (Watched.run mixedBatchRun).session.engine.map (fun e => ((e.poll m).1,
      ((e.poll m).2.1.records.take 2).map (fun r => (r.slot, r.result)), (e.poll m).2.1.phases)) =
      some (.ok 2, [(⟨0, 1⟩, 1), (⟨0, 0⟩, -5)], [some [.completed, .completed, .armed]]) := by
    decide +kernel
  obtain ⟨e, he, hkernel⟩ := Option.map_eq_some_iff.1 hkernel
  rw [he, Option.map_some, Option.some.injEq] at hpoll
  obtain ⟨hsignaled, hcount, hslots⟩ := by simpa only [Prod.mk.injEq] using hkernel
  obtain ⟨hout, hrecords, hphases⟩ := by simpa only [Prod.mk.injEq] using hpoll
  have hwait : e.doorbell.wait m = (.ok 5, (e.doorbell.wait m).2) := Prod.ext hsignaled rfl
  have hcollect : e.context.collect 1 e.records (e.doorbell.wait m).2 = (.ok 5,
      (e.context.collect 1 e.records (e.doorbell.wait m).2).2) := Prod.ext hcount rfl
  obtain ⟨-, -, -, -, -, -, hmemory, -⟩ := poll_eq_specification hwait hcollect
  exact ⟨e, m, _, _, _, hwait, hcollect, hslots, hout, hrecords, hphases, hmemory⟩

end Engine
end Gadget
