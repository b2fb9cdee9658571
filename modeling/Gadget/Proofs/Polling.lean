import Gadget.Engine.Poll
import Gadget.Proofs.Sound
/-!
# A poll settles a batch of records

The sweep of a poll overwrites the array that it reads. `EndpointTable.settle` is the same pass over
a list, without the array: it says which records count and which are refused. `run_eq` is the loop
invariant that ties the two together, with the write position never behind the read position.
`poll_cases` then says what a poll can do, and that it keeps a sound engine sound needs no assumption
on the records at all.
-/
namespace Gadget

namespace EndpointTable

variable {t t' : EndpointTable} {s : Slot} {file : Int32} {b : Buffer}

theorem complete_of_inFlight (hf : t.find? s = some (file, b)) (hp : b.phase = .inFlight) :
    t.complete s = .ok (t.replace s (b.inPhase .completed)) := by
  simp only [complete, locate_of_find? hf, Buffer.complete, hp, if_true]
  rfl

theorem complete_of_not_inFlight (h : t.phase? s ≠ some .inFlight) :
    ∃ err, t.complete s = .error err := by
  cases hf : t.find? s with
  | none => exact ⟨_, by simp only [complete, locate_of_none hf]; rfl⟩
  | some x =>
    obtain ⟨file, b⟩ := x
    have hp : b.phase ≠ .inFlight := fun hp => h (by rw [phase?_of_find? hf, hp])
    exact ⟨.brokenContract (.notInFlight s b.phase), by
      simp [complete, locate_of_find? hf, Buffer.complete, hp]⟩

/-- Goes through records one after another: those that complete a transfer, those that do not with
the reason, and the table afterwards. -/
def settle : List Record → EndpointTable →
    List Record × List (Record × TransferError) × EndpointTable
  | [], t => ([], [], t)
  | r :: rs, t =>
    match t.complete r.slot with
    | .ok t =>
      let (valid, refused, t) := settle rs t
      (r :: valid, refused, t)
    | .error err =>
      let (valid, refused, t) := settle rs t
      (valid, (r, err) :: refused, t)

/-- What settling comes to. -/
structure Settled (rs valid : List Record) (refused : List (Record × TransferError))
    (t t' : EndpointTable) : Prop where
  moved : Moved (valid.map Record.slot) .completed t t'
  nodup : (valid.map Record.slot).Nodup
  inFlight : ∀ r ∈ valid, t.phase? r.slot = some .inFlight
  sublist : valid.Sublist rs
  length : valid.length + refused.length = rs.length

theorem settle_spec (rs : List Record) (t : EndpointTable) :
    Settled rs (settle rs t).1 (settle rs t).2.1 t (settle rs t).2.2 := by
  induction rs generalizing t with
  | nil => exact ⟨.nil _ _, by simp [settle], by simp [settle], by simp [settle], by simp [settle]⟩
  | cons r rs ih =>
    by_cases hp : t.phase? r.slot = some .inFlight
    · obtain ⟨file, b, hf, hb⟩ := phase?_eq_some_iff.1 hp
      obtain ⟨hm, hn, hi, hsub, hlen⟩ := ih (t.replace r.slot (b.inPhase .completed))
      -- the buffer is completed now, so no later record of the slot counts
      have hgone : ∀ x ∈ (settle rs (t.replace r.slot (b.inPhase .completed))).1, x.slot ≠ r.slot := by
        intro x hx he
        have := hi x hx
        rw [he, phase?, find?_replace_self hf] at this
        cases this
      simp only [settle, complete_of_inFlight hf hb]
      refine ⟨.cons hf hm, List.nodup_cons.2 ⟨?_, hn⟩, ?_, hsub.cons_cons r, by
        rw [List.length_cons, List.length_cons, Nat.add_right_comm, hlen]⟩
      · rw [List.mem_map]
        rintro ⟨x, hx, he⟩
        exact hgone x hx he
      · intro x hx
        rcases List.mem_cons.1 hx with rfl | hx
        · exact hp
        · have := hi x hx
          rwa [phase?, find?_replace_of_ne _ (hgone x hx)] at this
    · obtain ⟨err, he⟩ := complete_of_not_inFlight hp
      obtain ⟨hm, hn, hi, hsub, hlen⟩ := ih t
      simp only [settle, he]
      exact ⟨hm, hn, hi, hsub.cons r, by
        rw [List.length_cons, List.length_cons, ← Nat.add_assoc, hlen]⟩

/-- Records of which none completes a transfer change nothing. -/
theorem settle_of_refused {rs : List Record} {t : EndpointTable} (h : (settle rs t).1 = []) :
    (settle rs t).2.2 = t := by
  induction rs with
  | nil => rfl
  | cons r rs ih =>
    cases hc : t.complete r.slot with
    | ok t' => simp [settle, hc] at h
    | error err =>
      simp only [settle, hc] at h ⊢
      exact ih h

end EndpointTable

namespace Engine

/-! ## The loop over the array -/

section

variable {index : Nat} {s : Sweep} {t : EndpointTable}

theorem Sweep.step_of_complete (hi : index < s.records.length) (hv : s.valid ≤ index)
    (hc : s.endpoints.complete s.records[index].slot = .ok t) :
    s.step index = .ok { s with
      endpoints := t
      records := s.records.set s.valid s.records[index]
      valid := s.valid + 1 } := by
  have hlt : s.valid < s.records.length := by omega
  simp only [step, List.getElem?_eq_getElem hi, hc, if_pos hlt]

theorem Sweep.step_of_refused (hi : index < s.records.length) {err : TransferError}
    (hc : s.endpoints.complete s.records[index].slot = .error err) :
    s.step index = .ok { s with
      rejection := s.rejection.or (some err)
      discarded := s.discarded ++ [.discarded s.records[index].slot s.records[index].result err] } := by
  simp only [step, List.getElem?_eq_getElem hi, hc]

theorem Sweep.run_eq (index count : Nat) (s : Sweep) (hv : s.valid ≤ index)
    (hi : index + count ≤ s.records.length) {valid : List Record}
    {refused : List (Record × TransferError)} {t : EndpointTable}
    (hs : s.endpoints.settle ((s.records.drop index).take count) = (valid, refused, t)) :
    Sweep.run index count s = .ok {
      endpoints := t
      records := s.records.take s.valid ++ valid ++ s.records.drop (s.valid + valid.length)
      valid := s.valid + valid.length
      rejection := s.rejection.or (refused.head?.map (·.2))
      discarded := s.discarded ++ refused.map fun (r, err) => .discarded r.slot r.result err } := by
  induction count generalizing index s valid refused t with
  | zero =>
    simp only [List.take_zero, EndpointTable.settle, Prod.mk.injEq] at hs
    obtain ⟨rfl, rfl, rfl⟩ := hs
    simp [Sweep.run]
  | succ count ih =>
    have hlt : index < s.records.length := by omega
    rw [List.drop_eq_getElem_cons hlt, List.take_succ_cons, EndpointTable.settle] at hs
    cases hc : s.endpoints.complete s.records[index].slot with
    | ok t₁ =>
      -- what the record overwrites was read before, so the records to come are still there
      have hrest : (s.records.set s.valid s.records[index]).drop (index + 1) =
          s.records.drop (index + 1) := List.drop_set_of_lt (by omega)
      cases hsub : t₁.settle ((s.records.drop (index + 1)).take count) with
      | mk valid₁ x =>
        obtain ⟨refused₁, t₂⟩ := x
        simp only [hc, hsub, Prod.mk.injEq] at hs
        obtain ⟨rfl, rfl, rfl⟩ := hs
        simp only [Sweep.run, Sweep.step_of_complete hlt hv hc]
        rw [ih _ _ (by simp only; omega) (by simp only [List.length_set]; omega)
          (by simp only [hrest]; exact hsub)]
        have hwrite : (s.records.set s.valid s.records[index]).take (s.valid + 1) =
            s.records.take s.valid ++ [s.records[index]] := by
          rw [List.take_add_one, List.take_set_of_le (Nat.le_refl _),
            List.getElem?_set_self (by omega)]; rfl
        simp only [hwrite, List.length_cons, Except.ok.injEq, Sweep.mk.injEq, true_and, and_true]
        refine ⟨?_, by omega⟩
        rw [List.drop_set_of_lt (by omega), List.append_assoc _ [_], List.singleton_append]
        congr 2; omega
    | error err =>
      cases hsub : s.endpoints.settle ((s.records.drop (index + 1)).take count) with
      | mk valid₁ x =>
        obtain ⟨refused₁, t₂⟩ := x
        simp only [hc, hsub, Prod.mk.injEq] at hs
        obtain ⟨rfl, rfl, rfl⟩ := hs
        simp only [Sweep.run, Sweep.step_of_refused hlt hc]
        rw [ih _ _ (by simp only; omega) (by simp only; omega) (by simp only; exact hsub)]
        cases s.rejection <;> simp

/-- The sweep over the first records of an array, but not past its end. -/
theorem Sweep.run_min {count : Nat} {rs valid : List Record}
    {refused : List (Record × TransferError)} {t' : EndpointTable}
    (h : t.settle (rs.take count) = (valid, refused, t')) :
    Sweep.run 0 (min count rs.length) ⟨t, rs, 0, none, []⟩ = .ok {
      endpoints := t'
      records := valid ++ rs.drop valid.length
      valid := valid.length
      rejection := refused.head?.map (·.2)
      discarded := refused.map fun (r, err) => .discarded r.slot r.result err } := by
  have hs : t.settle ((rs.drop 0).take (min count rs.length)) = (valid, refused, t') := by
    rw [List.drop_zero, ← List.take_eq_take_min]; exact h
  have hrun := Sweep.run_eq 0 (min count rs.length) ⟨t, rs, 0, none, []⟩ (Nat.le_refl _)
    (by rw [Nat.zero_add]; exact Nat.min_le_right _ _) hs
  simpa only [List.take_zero, List.nil_append, Nat.zero_add, Option.none_or] using hrun

end

/-! ## The whole call -/

variable {κ : Type} [Kernel κ] {e e' : Engine} {m m' : Machine κ}

/-- What a poll returns: the reason against the first record if records came and none counted. -/
def pollOutcome (valid : List Record) (refused : List (Record × TransferError)) : Except Fault Nat :=
  match valid, refused with
  | [], (_, err) :: _ => .error (.error err)
  | _, _ => .ok valid.length

theorem pollOutcome_eq_ok {valid : List Record} {refused : List (Record × TransferError)} {n : Nat}
    (h : pollOutcome valid refused = .ok n) : n = valid.length := by
  unfold pollOutcome at h
  split at h
  · cases h
  · simpa using h.symm

/-- A poll that fails over its records completed none of them. -/
theorem pollOutcome_eq_error {valid : List Record} {refused : List (Record × TransferError)} {f : Fault}
    (h : pollOutcome valid refused = .error f) : valid = [] := by
  unfold pollOutcome at h
  split at h
  · rfl
  · cases h

/-- The record array after the kernel wrote into it. -/
def array (written : List Record) (e : Engine) : List Record :=
  written.take e.maxEvents ++ e.records.drop written.length

theorem length_array (written : List Record) (e : Engine) :
    (e.array written).length = e.maxEvents := by
  simp only [array, maxEvents, List.length_append, List.length_take, List.length_drop]; omega

/-- What a poll does once the kernel delivered: it reported `count` and wrote `written`. -/
structure Polled (count : Nat) (written valid : List Record)
    (refused : List (Record × TransferError)) (e : Engine) (m : Machine κ) (e' : Engine)
    (m' : Machine κ) : Prop where
  kernel : ∃ signaled k, Kernel.read e.doorbell.file m.kernel = (.ok (8, signaled), k) ∧
    Kernel.getEvents e.context.id 1 e.maxEvents k = (.ok (count, written), m'.kernel) ∧
    m'.calls = m.calls ++ [.read e.doorbell.file (.ok 8),
      .getEvents e.context.id 1 e.maxEvents (.ok count)] ∧
    m'.events = m.events ++ (refused.map fun (r, err) => .discarded r.slot r.result err) ++
      [.polled signaled (min count e.maxEvents) valid.length]
  settled : EndpointTable.settle ((e.array written).take count) e.endpoints =
    (valid, refused, e'.endpoints)
  records : e'.records = valid ++ (e.array written).drop valid.length
  ready : e'.ready = valid.length
  backlog : e'.backlog = e.backlog
  handles : e'.context = e.context ∧ e'.doorbell = e.doorbell
  owned : e'.owned = e.owned
  memory : m'.memory = m.memory

/-- What a poll does that one of its two kernel calls refused. -/
structure PollFailed (errno : Errno) (e : Engine) (m m' : Machine κ) : Prop where
  kernel :
    (Kernel.read e.doorbell.file m.kernel = (.error errno, m'.kernel) ∧
      m'.calls = m.calls ++ [.read e.doorbell.file (.error errno)]) ∨
    (∃ length signaled, Kernel.read e.doorbell.file m.kernel = (.ok (length, signaled), m'.kernel) ∧
      length ≠ 8 ∧ errno = .inputOutput ∧
      m'.calls = m.calls ++ [.read e.doorbell.file (.ok length)]) ∨
    (∃ signaled k, Kernel.read e.doorbell.file m.kernel = (.ok (8, signaled), k) ∧
      Kernel.getEvents e.context.id 1 e.maxEvents k = (.error errno, m'.kernel) ∧
      m'.calls = m.calls ++ [.read e.doorbell.file (.ok 8),
        .getEvents e.context.id 1 e.maxEvents (.error errno)])
  memory : m'.memory = m.memory

theorem wait_of_refused {errno : Errno} {k : κ}
    (h : Kernel.read e.doorbell.file m.kernel = (.error errno, k)) :
    e.doorbell.wait m = (.error errno, m.called (.read e.doorbell.file (.error errno)) k) := by
  simp only [Doorbell.wait, Machine.readCounter, h]

theorem wait_of_read {length : Nat} {signaled : UInt64} {k : κ}
    (h : Kernel.read e.doorbell.file m.kernel = (.ok (length, signaled), k)) :
    e.doorbell.wait m = (if length = 8 then .ok signaled else .error .inputOutput,
      m.called (.read e.doorbell.file (.ok length)) k) := by
  simp only [Doorbell.wait, Machine.readCounter, h]

/-- The kernel is asked for as many records as the array has room for. -/
theorem Sound.collect_eq (hs : Sound e) (m : Machine κ) :
    e.context.collect 1 e.records m =
      match Kernel.getEvents e.context.id 1 e.maxEvents m.kernel with
      | (.error errno, k) =>
        (.error errno, e.records, m.called (.getEvents e.context.id 1 e.maxEvents (.error errno)) k)
      | (.ok (count, written), k) =>
        (.ok count, e.array written, m.called (.getEvents e.context.id 1 e.maxEvents (.ok count)) k) := by
  have hroom : ¬ (Limits.int64 < 1 ∨ Limits.int64 < e.records.length) := by
    have : e.records.length ≤ Limits.int32 := hs.maxEvents_le
    simp only [Limits.int32, Limits.int64] at *; omega
  simp only [IoContext.collect, Machine.getEvents, if_neg hroom]
  rfl

/-- **A poll of a sound engine** is refused by the kernel, which leaves the engine without completions
and otherwise alone, or settles the first records of the array. -/
theorem poll_cases (hs : Sound e) (m : Machine κ) :
    (∃ errno m', e.poll m = (.error (.error (.callFailed errno)), { e with ready := 0 }, m') ∧
      PollFailed errno e m m') ∨
    (∃ count written valid refused e' m', e.poll m = (pollOutcome valid refused, e', m') ∧
      Polled count written valid refused e m e' m') := by
  cases hread : Kernel.read e.doorbell.file m.kernel with
  | mk outcome k =>
  cases outcome with
  | error errno =>
    exact .inl ⟨errno, m.called (.read e.doorbell.file (.error errno)) k,
      by simp only [poll, wait_of_refused hread], .inl ⟨hread, rfl⟩, rfl⟩
  | ok x =>
  obtain ⟨length, signaled⟩ := x
  have hwait := wait_of_read hread
  by_cases h8 : length = 8
  swap
  · rw [if_neg h8] at hwait
    exact .inl ⟨.inputOutput, m.called (.read e.doorbell.file (.ok length)) k,
      by simp only [poll, hwait], .inr (.inl ⟨length, signaled, hread, h8, rfl, rfl⟩), rfl⟩
  subst h8
  rw [if_pos rfl] at hwait
  have hcollect := hs.collect_eq (m.called (.read e.doorbell.file (.ok 8)) k)
  cases hget : Kernel.getEvents e.context.id 1 e.maxEvents k with
  | mk outcome k' =>
  simp only [Machine.called, hget] at hcollect
  cases outcome with
  | error errno =>
    refine .inl ⟨errno, (m.called (.read e.doorbell.file (.ok 8)) k).called
      (.getEvents e.context.id 1 e.maxEvents (.error errno)) k', ?_,
      .inr (.inr ⟨signaled, k, hread, hget, by simp [Machine.called]⟩), rfl⟩
    simp only [poll, hwait, Machine.called, hcollect]
  | ok y =>
    obtain ⟨count, written⟩ := y
    right
    cases hset : e.endpoints.settle ((e.array written).take count) with
    | mk valid z =>
    obtain ⟨refused, t⟩ := z
    refine ⟨count, written, valid, refused, { e with
      endpoints := t, records := valid ++ (e.array written).drop valid.length, ready := valid.length },
      (((m.called (.read e.doorbell.file (.ok 8)) k).called
        (.getEvents e.context.id 1 e.maxEvents (.ok count)) k').logAll
          (refused.map fun (r, err) => .discarded r.slot r.result err)).log
        (.polled signaled (min count (e.array written).length) valid.length), ?_, ?_⟩
    · simp only [poll, hwait, Machine.called, hcollect, Sweep.run_min hset]
      cases refused with
      | nil => cases valid <;> rfl
      | cons r rs => cases valid <;> rfl
    · exact ⟨⟨signaled, k, hread, hget, by simp [Machine.called, Machine.log, Machine.logAll],
        by simp [Machine.called, Machine.log, Machine.logAll, length_array]⟩, hset, rfl, rfl, rfl,
        ⟨rfl, rfl⟩, rfl, rfl⟩

/-! ## What it keeps -/

/-- Without completions an engine is as sound as it was with them. -/
theorem Sound.unready (hs : Sound e) : Sound { e with ready := 0 } :=
  { hs with
    ready_le := Nat.zero_le _
    ready_nodup := by simp
    ready_found := fun r h => by simp at h }

namespace Polled

variable {count : Nat} {written valid : List Record} {refused : List (Record × TransferError)}

theorem settles (h : Polled count written valid refused e m e' m') :
    EndpointTable.Settled ((e.array written).take count) valid refused e.endpoints e'.endpoints := by
  have hs := EndpointTable.settle_spec ((e.array written).take count) e.endpoints
  rwa [h.settled] at hs

theorem keeps (h : Polled count written valid refused e m e' m') : Keeps e e' :=
  .of_moved h.handles.1 h.handles.2 h.settles.moved

theorem phase?_eq (h : Polled count written valid refused e m e' m') (s : Slot) :
    e'.endpoints.phase? s =
      if s ∈ valid.map Record.slot then some .completed else e.endpoints.phase? s := by
  rw [h.settles.moved.phase?_eq]
  split
  · rename_i hm
    obtain ⟨r, hr, rfl⟩ := List.mem_map.1 hm
    rw [h.settles.inFlight r hr]; rfl
  · rfl

/-- The buffer of a completion is completed. -/
theorem phase?_of_valid (h : Polled count written valid refused e m e' m') {r : Record}
    (hr : r ∈ valid) : e'.endpoints.phase? r.slot = some .completed := by
  rw [h.phase?_eq, if_pos (List.mem_map_of_mem hr)]

theorem length_valid (h : Polled count written valid refused e m e' m') :
    valid.length ≤ e.maxEvents := by
  have hle := h.settles.sublist.length_le
  have := length_array written e
  rw [List.length_take] at hle
  omega

/-- The completions are the records that counted. -/
theorem delivered (h : Polled count written valid refused e m e' m') :
    e'.records.take e'.ready = valid := by
  rw [h.records, h.ready, List.take_left]

theorem maxEvents_eq (h : Polled count written valid refused e m e' m') :
    e'.maxEvents = e.maxEvents := by
  have := h.length_valid
  have hl := length_array written e
  rw [maxEvents, h.records, List.length_append, List.length_drop, hl]
  omega

theorem sound (h : Polled count written valid refused e m e' m') (hs : Sound e) : Sound e' where
  backlog_nodup := by rw [h.backlog]; exact hs.backlog_nodup
  mem_backlog s := by
    rw [h.backlog, hs.mem_backlog, h.phase?_eq]
    split
    · rename_i hm
      obtain ⟨r, hr, rfl⟩ := List.mem_map.1 hm
      rw [h.settles.inFlight r hr]; simp
    · rfl
  not_idle s hp := by
    rw [h.phase?_eq] at hp
    split at hp
    · cases hp
    · exact hs.not_idle s hp
  descriptor := hs.descriptor_of_moved h.handles.2 h.settles.moved
  owned_eq := by rw [h.owned, h.settles.moved.length, hs.owned_eq]
  owned_le := by rw [h.owned, h.maxEvents_eq]; exact hs.owned_le
  capacity_eq := by rw [h.backlog, h.maxEvents_eq]; exact hs.capacity_eq
  maxEvents_le := by rw [h.maxEvents_eq]; exact hs.maxEvents_le
  endpointCount_le := by rw [h.keeps.endpointCount]; exact hs.endpointCount_le
  ready_le := by rw [h.ready, h.maxEvents_eq]; exact h.length_valid
  ready_nodup := by rw [h.delivered]; exact h.settles.nodup
  ready_found r hr := by
    rw [h.delivered] at hr
    rw [h.phase?_of_valid hr]; rfl

end Polled

end Engine

end Gadget
