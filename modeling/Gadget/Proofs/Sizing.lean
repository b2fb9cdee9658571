import Gadget.Proofs.Admission
import Mathlib.Algebra.GroupWithZero.Nat
/-!
# Engines of exactly the size that their endpoints need

An engine that is created with its endpoints is sized by one loop and filled by another. The first rejects
what cannot work at all (`totalCount_cases`); what it lets through fills the engine to the last operation,
since after any number of endpoints the buffers are those of the endpoints so far (`Filled`), so that only
memory can be in the way of the next (`Filled.equipAll`).
-/
namespace Gadget

/-- How many buffers endpoints have together. -/
def totalBuffers (plans : List EndpointPlan) : Nat := (plans.map EndpointPlan.count).sum

/-- There is no engine for these endpoints: there are none of them or too many, one has an unusable
geometry, or they have more buffers than a machine word or an engine can count. -/
def Unsizable (plans : List EndpointPlan) : Prop :=
  plans = [] ∨ Limits.uint32 < plans.length ∨ (∃ plan ∈ plans, ¬ plan.Usable) ∨
    Limits.word < totalBuffers plans ∨ Limits.int32 < totalBuffers plans

instance (plans : List EndpointPlan) : Decidable (Unsizable plans) := by
  unfold Unsizable; infer_instance

namespace Engine

variable {κ : Type} {e e' : Engine} {m m' : Machine κ}

/-! ## Counting buffers -/

theorem totalBuffers_cons (plan : EndpointPlan) (plans : List EndpointPlan) :
    totalBuffers (plan :: plans) = plan.count + totalBuffers plans := by
  simp [totalBuffers]

theorem totalBuffers_concat (done : List EndpointPlan) (plan : EndpointPlan) :
    totalBuffers (done ++ [plan]) = totalBuffers done + plan.count := by
  simp [totalBuffers]

theorem count_le_totalBuffers {plans : List EndpointPlan} {plan : EndpointPlan} (h : plan ∈ plans) :
    plan.count ≤ totalBuffers plans := by
  obtain ⟨before, after, rfl⟩ := List.append_of_mem h
  simp only [totalBuffers, List.map_append, List.map_cons, List.sum_append, List.sum_cons]
  omega

/-- Usable endpoints have a buffer each at least. -/
theorem length_le_totalBuffers {plans : List EndpointPlan} (h : ∀ plan ∈ plans, plan.Usable) :
    plans.length ≤ totalBuffers plans := by
  induction plans with
  | nil => exact Nat.zero_le _
  | cons plan plans ih =>
    have hpos := (h plan (by simp)).1
    have hrest := ih fun p hp => h p (by simp [hp])
    rw [totalBuffers_cons, List.length_cons]
    omega

/-- The sizing loop adds up the buffers, or an argument is bad. -/
theorem totalCount_cases (plans : List EndpointPlan) {start : Nat} (hs : start ≤ Limits.word) :
    ((∀ plan ∈ plans, plan.Usable) ∧ start + totalBuffers plans ≤ Limits.word ∧
      totalCount plans start = .ok (start + totalBuffers plans)) ∨
    (((∃ plan ∈ plans, ¬ plan.Usable) ∨ Limits.word < start + totalBuffers plans) ∧
      ∃ fault, totalCount plans start = .error (.badArgument fault)) := by
  induction plans generalizing start with
  | nil => exact .inl ⟨by simp, by simpa [totalBuffers] using hs, rfl⟩
  | cons plan plans ih =>
    rw [totalBuffers_cons, ← Nat.add_assoc]
    by_cases hu : plan.Usable
    swap
    · obtain ⟨fault, hfault⟩ := EndpointPlan.check_of_not_usable hu
      refine .inr ⟨.inl ⟨plan, by simp, hu⟩, fault, ?_⟩
      simp only [totalCount, hfault]
    by_cases hw : start + plan.count ≤ Limits.word
    swap
    · refine .inr ⟨.inr (by omega), .bufferTotal, ?_⟩
      simp only [totalCount, EndpointPlan.check_of_usable hu, Limits.checkedAdd, if_neg hw]
    have hnext : totalCount (plan :: plans) start = totalCount plans (start + plan.count) := by
      simp only [totalCount, EndpointPlan.check_of_usable hu, Limits.checkedAdd, if_pos hw]
    rw [hnext]
    rcases ih hw with ⟨hall, hle, he⟩ | ⟨hbad, fault, he⟩
    · refine .inl ⟨?_, hle, he⟩
      intro p hp
      rcases List.mem_cons.1 hp with rfl | hp
      · exact hu
      · exact hall p hp
    · refine .inr ⟨?_, fault, he⟩
      rcases hbad with ⟨p, hp, hnot⟩ | hlt
      · exact .inl ⟨p, by simp [hp], hnot⟩
      · exact .inr hlt

theorem checkSize_of_sizable {plans : List EndpointPlan} (h : ¬ Unsizable plans) :
    checkSize plans.length (totalBuffers plans) = .ok () := by
  simp only [Unsizable, not_or, not_exists, not_and, not_not] at h
  obtain ⟨hne, hlength, husable, -, htotal⟩ := h
  have hpos := List.length_pos_iff.2 hne
  have hle := length_le_totalBuffers husable
  rw [checkSize, if_neg (by omega), if_neg (by omega)]

/-- A size that no engine has is a bad argument. -/
theorem checkSize_of_unsizable {plans : List EndpointPlan} (hu : ∀ plan ∈ plans, plan.Usable)
    (hw : totalBuffers plans ≤ Limits.word) (h : Unsizable plans) :
    ∃ fault, checkSize plans.length (totalBuffers plans) = .error (.badArgument fault) := by
  unfold checkSize
  split
  · exact ⟨_, rfl⟩
  · rename_i hlength
    split
    · exact ⟨_, rfl⟩
    · rename_i htotal
      rcases h with rfl | h | ⟨plan, hm, hnot⟩ | h | h
      · exact absurd (.inl rfl) hlength
      · exact absurd (.inr h) hlength
      · exact absurd (hu plan hm) hnot
      · exact absurd h (Nat.not_lt.2 hw)
      · exact absurd (.inr h) htotal

/-! ## Slots in order -/

/-- All slots of endpoints: endpoint by endpoint, buffer by buffer. -/
def allSlots (plans : List EndpointPlan) : List Slot :=
  plans.zipIdx.flatMap fun (plan, i) => (List.range plan.count).map fun j => ⟨.ofNat i, .ofNat j⟩

theorem allSlots_append_singleton (done : List EndpointPlan) (plan : EndpointPlan) :
    allSlots (done ++ [plan]) = allSlots done ++ plan.slots (.ofNat done.length) := by
  simp [allSlots, List.zipIdx_append, EndpointPlan.slots]

theorem length_allSlots (plans : List EndpointPlan) :
    (allSlots plans).length = totalBuffers plans := by
  induction plans using List.reverseRecOn with
  | nil => rfl
  | append_singleton done plan ih =>
    rw [allSlots_append_singleton, List.length_append, ih, totalBuffers_concat, EndpointPlan.slots,
      List.length_map, List.length_range]

theorem ofNat_lt_ofNat {i j : Nat} (hj : j ≤ Limits.uint32) (h : i < j) :
    UInt32.ofNat i < UInt32.ofNat j := by
  rw [UInt32.lt_iff_toNat_lt, toNat_ofNat_of_le (by omega), toNat_ofNat_of_le hj]
  exact h

/-- They are in increasing order, unless there are more endpoints or buffers than slots can tell apart. -/
theorem pairwise_allSlots {plans : List EndpointPlan} (hlength : plans.length ≤ Limits.uint32)
    (hcount : ∀ plan ∈ plans, plan.count ≤ Limits.uint32) : (allSlots plans).Pairwise (· < ·) := by
  refine List.pairwise_flatMap.2 ⟨?_, ?_⟩
  · rintro ⟨plan, i⟩ hm
    have hplan := hcount plan (List.fst_mem_of_mem_zipIdx hm)
    refine List.pairwise_map.2 ((List.pairwise_lt_range).imp_of_mem ?_)
    intro a b ha hb hab
    have hb := List.mem_range.1 hb
    exact .inr ⟨rfl, ofNat_lt_ofNat (by omega) hab⟩
  · refine List.pairwise_iff_getElem.2 ?_
    intro i j hi hj hij x hx y hy
    simp only [List.getElem_zipIdx, Nat.zero_add, List.mem_map] at hx hy
    obtain ⟨a, -, rfl⟩ := hx
    obtain ⟨b, -, rfl⟩ := hy
    rw [List.length_zipIdx] at hj
    exact .inl (ofNat_lt_ofNat (by omega) hij)

/-! ## Endpoint after endpoint -/

/-- The endpoint of an index is as planned, and so is each of its buffers. -/
def Furnished (e : Engine) (index : Nat) (plan : EndpointPlan) : Prop :=
  ∃ p, e.endpoints.entries[index]? = some (some p) ∧ p.file = plan.file ∧
    p.direction = plan.direction ∧ p.buffers.length = plan.count ∧
    ∀ (j : Nat) (b : Buffer), p.buffers[j]? = some b →
      AsPlanned plan ⟨.ofNat index, .ofNat j⟩ e.doorbell.file b

/-- An engine for `count` endpoints and `total` buffers, of which the first endpoints are there. -/
structure Filled (done : List EndpointPlan) (count total : Nat) (e : Engine) : Prop where
  sound : Sound e
  maxEvents : e.maxEvents = total
  endpointCount : e.endpointCount = count
  owned : e.owned = totalBuffers done
  backlog : e.backlog.slots = allSlots done
  furnished : ∀ i plan, done[i]? = some plan → e.Furnished i plan
  vacant : ∀ i, done.length ≤ i → i < count → e.endpoints.entries[i]? = some none

namespace Filled

variable {done rest : List EndpointPlan} {count total : Nat} {plan : EndpointPlan}

/-- Until all endpoints are there, nothing but memory is in the way of the next. -/
theorem objection?_eq_none (h : Filled done count total e) (hlt : done.length < count)
    (hu : plan.Usable) (hle : totalBuffers done + plan.count ≤ total) :
    e.objection? done.length plan = none := by
  have hvacant := h.vacant done.length (Nat.le_refl _) hlt
  have hq : e.isEquipped done.length = false := by
    rw [isEquipped, EndpointTable.endpoint?, hvacant]
    rfl
  have howned : e.endpoints.buffers.length = totalBuffers done := by
    rw [← h.sound.owned_eq, h.owned]
  rw [objection?, if_neg (by rw [h.endpointCount]; omega), hq, if_neg Bool.false_ne_true,
    if_neg (not_not_intro hu), if_neg (by rw [h.maxEvents, howned]; omega)]

theorem equipped (h : Filled done count total e) {buffers : List Buffer}
    (hq : Equipped done.length plan buffers e m e' m') : Filled (done ++ [plan]) count total e' where
  sound := hq.sound h.sound
  maxEvents := by rw [← h.maxEvents, hq.engine]; rfl
  endpointCount := by rw [hq.keeps.endpointCount, h.endpointCount]
  owned := by rw [hq.engine, totalBuffers_concat, ← h.owned]
  backlog := by rw [hq.engine, allSlots_append_singleton, ← h.backlog]
  furnished i p hi := by
    rcases Nat.lt_trichotomy i done.length with hlt | rfl | hgt
    · rw [List.getElem?_append_left hlt] at hi
      obtain ⟨x, hx, hrest⟩ := h.furnished i p hi
      refine ⟨x, ?_, ?_⟩
      · rw [(hq.letIn h.sound).entries i (by omega), hx]
      · rw [hq.keeps.doorbell]
        exact hrest
    · rw [List.getElem?_concat_length] at hi
      cases hi
      refine ⟨⟨plan.file, plan.direction, buffers⟩, ?_, rfl, rfl, hq.length, ?_⟩
      · rw [hq.engine]
        exact List.getElem?_set_self hq.index_lt
      · intro j b hb
        obtain ⟨a, rfl, hregion, hheader⟩ := hq.buffer j b hb
        rw [hq.keeps.doorbell]
        exact .of_transfer rfl (congrArg Region.size hregion) hheader rfl
    · rw [List.getElem?_eq_none (by simp only [List.length_append, List.length_singleton]; omega)] at hi
      cases hi
  vacant i hi hlt := by
    rw [List.length_append, List.length_singleton] at hi
    rw [(hq.letIn h.sound).entries i (by omega)]
    exact h.vacant i (by omega) hlt

/-- **Capacity runs out with the last endpoint**: all of them get their buffers, or memory is refused. -/
theorem equipAll [Kernel κ] (h : Filled done count total e) (hcount : done.length + rest.length = count)
    (hu : ∀ plan ∈ rest, plan.Usable) (htotal : totalBuffers done + totalBuffers rest = total)
    (m : Machine κ) :
    (∃ e' m', Engine.equipAll done.length rest e m = (.ok (), e', m') ∧
      Filled (done ++ rest) count total e') ∨
    (∃ e' m', Engine.equipAll done.length rest e m = (.error (.error .outOfMemory), e', m')) := by
  induction rest generalizing done e m with
  | nil =>
    rw [List.append_nil]
    exact .inl ⟨e, m, rfl, h⟩
  | cons plan rest ih =>
    rw [totalBuffers_cons] at htotal
    rw [List.length_cons] at hcount
    have hnone := h.objection?_eq_none (by omega) (hu plan (by simp)) (by omega)
    by_cases hm : m.CanSupply plan
    swap
    · obtain ⟨m', he⟩ := h.sound.equip_of_not_canSupply hnone hm
      exact .inr ⟨e, m', by simp only [Engine.equipAll, he]⟩
    obtain ⟨buffers, e₁, m₁, he, hq⟩ := h.sound.equip_of_canSupply hnone hm
    have hnext := ih (h.equipped hq) (by simp only [List.length_append, List.length_singleton]; omega)
      (fun p hp => hu p (by simp [hp]))
      (by rw [totalBuffers_concat]; omega) m₁
    rw [List.append_assoc, List.singleton_append, List.length_append, List.length_singleton] at hnext
    simp only [Engine.equipAll, he]
    exact hnext

end Filled

end Engine
end Gadget
