import Gadget.Engine.Equip
import Gadget.Proofs.Sound
import Mathlib.Data.List.Nodup
/-!
# Equipping an endpoint changes all of it or nothing

`Engine.equip` allocates, arms and queues in turn, and each of the three can fail. On a sound engine
only the allocation can (`equip_of_acquired`): the earlier check leaves room in the backlog for every
buffer, and indices below the capacity fit half a slot. A failed allocation has given back what it
took (`acquire_spec`), so the engine is as before (`equip_cases`).
-/
namespace Gadget

/-- The slots of an endpoint of `count` buffers. -/
def EndpointPlan.slots (half : UInt32) (plan : EndpointPlan) : List Slot :=
  (List.range plan.count).map fun index => ⟨half, .ofNat index⟩

/-- Two machines between which only memory was asked for: `new` are the cells that came with it. -/
structure Machine.Grew {κ : Type} (new : List (Option (List UInt8))) (m m' : Machine κ) : Prop where
  kernel : m'.kernel = m.kernel
  calls : m'.calls = m.calls
  cells : m'.memory.cells = m.memory.cells ++ new

namespace Engine

variable {κ : Type} {plan : EndpointPlan}

/-! ## Allocating -/

/-- `buffers` are idle buffers of the planned geometry over regions numbered from `base` on. -/
structure Blank (plan : EndpointPlan) (base : Nat) (buffers : List Buffer) : Prop where
  region : ∀ (j : Nat) (b : Buffer), buffers[j]? = some b → b.region = ⟨base + j, plan.size⟩
  header : ∀ b ∈ buffers, b.header = plan.header
  phase : ∀ b ∈ buffers, b.phase = .idle

theorem Blank.nil (plan : EndpointPlan) (base : Nat) : Blank plan base [] := by
  constructor <;> simp

theorem Blank.cons {base : Nat} {buffers : List Buffer} {b : Buffer}
    (hr : b.region = ⟨base, plan.size⟩) (hh : b.header = plan.header) (hp : b.phase = .idle)
    (h : Blank plan (base + 1) buffers) : Blank plan base (b :: buffers) where
  region j x hx := by
    cases j with
    | zero =>
      simp only [List.getElem?_cons_zero, Option.some.injEq] at hx
      rw [← hx, hr]; rfl
    | succ j =>
      rw [h.region j x (by simpa using hx), Region.mk.injEq]
      exact ⟨by omega, rfl⟩
  header x hx := by
    rcases List.mem_cons.1 hx with rfl | hx
    · exact hh
    · exact h.header x hx
  phase x hx := by
    rcases List.mem_cons.1 hx with rfl | hx
    · exact hp
    · exact h.phase x hx

theorem set_append_replicate (cells : List (Option (List UInt8))) (z : Option (List UInt8)) (k : Nat) :
    (cells ++ [z] ++ List.replicate k none).set cells.length none =
      cells ++ List.replicate (k + 1) none := by
  rw [List.append_assoc, List.set_append_right _ _ (Nat.le_refl _)]
  simp [List.replicate_succ]

section

variable [Kernel κ]

/-- Once a region is granted, it is for the others to fail; then it is given back. -/
theorem acquire_of_grants {count index : Nat} {m : Machine κ} (hh : plan.header < plan.size)
    (h : m.grants .region plan.size) :
    acquire plan index (count + 1) m =
      match acquire plan (index + 1) count (m.granted plan.size) with
      | (.error f, m') => (.error f, m'.releaseAll [m.memory.cells.length])
      | (.ok buffers, m') =>
        (.ok (⟨⟨m.memory.cells.length, plan.size⟩, plan.header, .idle, .zero, hh⟩ :: buffers), m') := by
  have hmake : Buffer.create ⟨m.memory.cells.length, plan.size⟩ plan.header =
      .ok ⟨⟨m.memory.cells.length, plan.size⟩, plan.header, .idle, .zero, hh⟩ := by
    simp [Buffer.create, hh]
  rcases hrest : acquire plan (index + 1) count (m.granted plan.size) with ⟨f | buffers, m'⟩ <;>
    simp only [acquire, Machine.allocate_of_grants h, hmake, hrest]

/-- The first region that is not granted ends it. -/
theorem acquire_of_not_grants {m : Machine κ} (h : ¬ m.grants .region plan.size) (count index : Nat) :
    ∃ m', acquire plan index (count + 1) m = (.error (.error .outOfMemory), m') ∧ m.Grew [] m' := by
  refine ⟨(m.allocate plan.size).2.log (.allocationFailed index plan.size), ?_, ?_⟩
  · simp only [acquire, Machine.allocate_of_not_grants h]
  · rw [Machine.allocate_of_not_grants h]
    exact ⟨rfl, rfl, (List.append_nil _).symm⟩

/-- Allocation either yields all buffers over new regions of zeros, or every region it obtained
is released again. -/
theorem acquire_spec (hh : plan.header < plan.size) (count index : Nat) (m : Machine κ) :
    (∃ buffers m', acquire plan index count m = (.ok buffers, m') ∧ buffers.length = count ∧
      Blank plan m.memory.cells.length buffers ∧
      m.Grew (List.replicate count (some (List.replicate plan.size 0))) m' ∧
      (0 < count → plan.size ≤ Limits.int64)) ∨
    (∃ k m', acquire plan index count m = (.error (.error .outOfMemory), m') ∧
      m.Grew (List.replicate k none) m') := by
  induction count generalizing index m with
  | zero => exact .inl ⟨[], m, rfl, rfl, .nil _ _, ⟨rfl, rfl, by simp⟩, by simp⟩
  | succ count ih =>
    by_cases ha : m.grants .region plan.size
    · have hcells : (m.granted plan.size).memory.cells =
          m.memory.cells ++ [some (List.replicate plan.size (0 : UInt8))] := rfl
      rcases ih (index + 1) (m.granted plan.size) with
        ⟨buffers, m', hrun, hlen, hb, hg, -⟩ | ⟨k, m', hrun, hg⟩
      · refine .inl ⟨_ :: buffers, m', by rw [acquire_of_grants hh ha, hrun], by simp [hlen],
          .cons rfl rfl rfl (by simpa [hcells] using hb), ⟨hg.kernel, hg.calls, ?_⟩,
          fun _ => Machine.le_of_grants ha⟩
        rw [hg.cells, hcells, List.replicate_succ, List.append_assoc]; rfl
      · refine .inr ⟨k + 1, m'.releaseAll [m.memory.cells.length],
          by rw [acquire_of_grants hh ha, hrun], ⟨hg.kernel, hg.calls, ?_⟩⟩
        simp only [Machine.releaseAll, Memory.releaseAll, List.foldl_cons, List.foldl_nil,
          Memory.release, hg.cells, hcells]
        exact set_append_replicate _ _ _
    · obtain ⟨m', hrun, hg⟩ := acquire_of_not_grants ha count index
      exact .inr ⟨0, m', hrun, hg⟩

end

/-! ## Arming and queueing -/

theorem slotHalf_of_le {index : Nat} (h : index ≤ Limits.uint32) :
    slotHalf index = .ok (.ofNat index) := by
  simp [slotHalf, h]

theorem armAll_eq (half : UInt32) (plan : EndpointPlan) (notified : Int32) (buffers : List Buffer)
    (index : Nat) (hi : index + buffers.length ≤ Limits.uint32) (hf : ∀ b ∈ buffers, b.phase.isFree) :
    armAll half plan notified index buffers = .ok (buffers.mapIdx fun j b =>
      b.armed ⟨half, .ofNat (index + j)⟩ plan.direction plan.file notified) := by
  induction buffers generalizing index with
  | nil => rfl
  | cons b bs ih =>
    simp only [List.length_cons] at hi
    simp only [armAll, slotHalf_of_le (show index ≤ Limits.uint32 by omega),
      Buffer.arm_of_isFree (hf b (by simp)), ih (index + 1) (by omega) fun x hx => hf x (by simp [hx]),
      Except.map, List.mapIdx_cons, Nat.add_zero]
    simp only [Nat.add_assoc, Nat.add_comm 1]

theorem enqueue_eq (half : UInt32) (index count : Nat) (q : Backlog)
    (hi : index + count ≤ Limits.uint32) (hq : q.slots.length + count ≤ q.capacity) :
    enqueue half index count q = (.ok (),
      { q with slots := q.slots ++ (List.range count).map fun j => ⟨half, .ofNat (index + j)⟩ }) := by
  induction count generalizing index q with
  | zero => simp [enqueue]
  | succ count ih =>
    have hroom : q.push ⟨half, .ofNat index⟩ =
        .ok { q with slots := q.slots ++ [⟨half, .ofNat index⟩] } :=
      Backlog.push_eq_ok_iff.2 ⟨by simp only [Backlog.length]; omega, rfl⟩
    simp only [enqueue, slotHalf_of_le (show index ≤ Limits.uint32 by omega), hroom]
    rw [ih _ _ (by omega) (by simp only [List.length_append, List.length_singleton]; omega),
      List.range_succ_eq_map]
    simp [Nat.add_assoc, Nat.add_comm 1]

/-! ## The whole call -/

/-- What a successful call does. The new buffers lie in new regions of zeros and are armed. -/
structure Equipped (index : Nat) (plan : EndpointPlan) (buffers : List Buffer)
    (e : Engine) (m : Machine κ) (e' : Engine) (m' : Machine κ) : Prop where
  vacant : e.endpoints.entries[index]? = some none
  geometry : plan.check = .ok ()
  fits : plan.count ≤ e.available
  size_le : plan.size ≤ Limits.int64
  length : buffers.length = plan.count
  buffer : ∀ (j : Nat) (b : Buffer), buffers[j]? = some b → ∃ a : Buffer,
    b = a.armed ⟨.ofNat index, .ofNat j⟩ plan.direction plan.file e.doorbell.file ∧
      a.region = ⟨m.memory.cells.length + j, plan.size⟩ ∧ a.header = plan.header
  engine : e' = { e with
    backlog := { e.backlog with slots := e.backlog.slots ++ plan.slots (.ofNat index) }
    endpoints := e.endpoints.install index ⟨plan.file, plan.direction, buffers⟩
    owned := e.owned + plan.count }
  machine : m.Grew (List.replicate plan.count (some (List.replicate plan.size 0))) m'

/-- Why an endpoint may not be equipped so. -/
inductive Unfit (index : Nat) (plan : EndpointPlan) (e : Engine) : TransferError → Prop
  | noEndpoint (h : e.endpointCount ≤ index) :
    Unfit index plan e (.badArgument (.endpointIndex index e.endpointCount))
  | equipped (h : e.isEquipped index) : Unfit index plan e (.brokenContract (.alreadyEquipped index))
  | geometry {err : TransferError} (h : plan.check = .error err) : Unfit index plan e err
  | full (h : e.available < plan.count) :
    Unfit index plan e (.full plan.count e.available e.maxEvents)

theorem checkEquip_cases (hs : Sound e) (index : Nat) (plan : EndpointPlan) :
    (∃ err, e.checkEquip index plan = .error err ∧ Unfit index plan e err) ∨
    (e.checkEquip index plan = .ok (.ofNat index) ∧ e.endpoints.entries[index]? = some none ∧
      plan.check = .ok () ∧ plan.count ≤ e.available) := by
  unfold checkEquip
  split
  · rename_i hn
    exact .inl ⟨_, rfl, .noEndpoint (List.getElem?_eq_none_iff.1 hn)⟩
  · rename_i hq
    exact .inl ⟨_, rfl, .equipped (by simp [isEquipped, EndpointTable.endpoint?, hq])⟩
  · rename_i hv
    have hi : index < e.endpointCount := (List.getElem?_eq_some_iff.1 hv).1
    have := hs.endpointCount_le
    split
    · rename_i hc
      exact .inl ⟨_, rfl, .geometry hc⟩
    · rename_i hc
      split
      · rename_i hfull
        exact .inl ⟨_, rfl, .full hfull⟩
      · exact .inr ⟨slotHalf_of_le (by omega), hv, hc, by omega⟩

section

variable [Kernel κ]

/-- Once its regions are allocated, nothing keeps a sound engine from equipping an endpoint: there is
room for every slot, and its index is small. -/
theorem equip_of_acquired {e : Engine} (hs : Sound e) {index : Nat} {m m₁ : Machine κ} {half : UInt32}
    {blank : List Buffer} (hc : e.checkEquip index plan = .ok half)
    (hres : m.reserve .buffers plan.count Buffer.width = .ok ())
    (hrun : acquire plan 0 plan.count m = (.ok blank, m₁)) :
    ∃ buffers e' m', e.equip index plan m = (.ok (), e', m') ∧
      Equipped index plan buffers e m e' m' := by
  rcases checkEquip_cases hs index plan with ⟨err, hc', -⟩ | ⟨hc', hv, hp, hfits⟩
  · rw [hc] at hc'; cases hc'
  rw [hc, Except.ok.injEq] at hc'
  subst hc'
  obtain ⟨hpos, hh, -⟩ := EndpointPlan.check_eq_ok_iff.1 hp
  rcases acquire_spec hh plan.count 0 m with ⟨_, _, hrun', hlen, hb, hg, hsize⟩ | ⟨_, _, hrun', -⟩
  swap
  · rw [hrun] at hrun'; cases hrun'
  rw [hrun] at hrun'
  cases hrun'
  have hcap := hs.capacity_eq
  have hmax := hs.maxEvents_le
  simp only [available, Backlog.room] at hfits
  have hsmall : plan.count ≤ Limits.uint32 := by simp only [Limits.uint32, Limits.int32] at *; omega
  have harm := armAll_eq (.ofNat index) plan e.doorbell.file blank 0 (by omega) fun b hb' => by
    rw [hb.phase b hb']; rfl
  have hq := enqueue_eq (.ofNat index) 0 plan.count e.backlog (by omega) (by omega)
  simp only [Nat.zero_add] at harm hq
  refine ⟨_, _, _, by
    simp only [equip, hc, hres, hrun, harm, List.length_mapIdx, hlen, hq]; rfl,
    ⟨hv, hp, by simp only [available, Backlog.room]; omega, hsize hpos, by simp [hlen], ?_, rfl, ?_⟩⟩
  · intro j b hj
    rw [List.getElem?_mapIdx] at hj
    obtain ⟨a, ha, rfl⟩ := Option.map_eq_some_iff.1 hj
    exact ⟨a, rfl, hb.region j a ha, hb.header a (List.mem_of_getElem? ha)⟩
  · exact ⟨hg.kernel, hg.calls, hg.cells⟩

/-- **Equipping an endpoint of a sound engine** fails and leaves the engine alone, or succeeds as a
whole. -/
theorem equip_cases {e : Engine} (hs : Sound e) (index : Nat) (plan : EndpointPlan) (m : Machine κ) :
    (∃ err k m', e.equip index plan m = (.error (.error err), e, m') ∧ m.Grew (List.replicate k none) m') ∨
    (∃ buffers e' m', e.equip index plan m = (.ok (), e', m') ∧
      Equipped index plan buffers e m e' m') := by
  rcases checkEquip_cases hs index plan with ⟨err, hc, -⟩ | ⟨hc, -, hp, -⟩
  · exact .inl ⟨err, 0, m, by simp only [equip, hc], ⟨rfl, rfl, by simp⟩⟩
  rcases m.reserve_cases .buffers plan.count Buffer.width with hres | hres
  swap
  · exact .inl ⟨.outOfMemory, 0, m, by simp only [equip, hc, hres], ⟨rfl, rfl, by simp⟩⟩
  obtain ⟨-, hh, -⟩ := EndpointPlan.check_eq_ok_iff.1 hp
  rcases acquire_spec hh plan.count 0 m with ⟨blank, m', hrun, -⟩ | ⟨k, m', hrun, hg⟩
  · exact .inr (equip_of_acquired hs hc hres hrun)
  · exact .inl ⟨.outOfMemory, k, m', by simp only [equip, hc, hres, hrun], hg⟩

end

/-! ## What it keeps -/

theorem mem_slots {index : Nat} (hi : index ≤ Limits.uint32) (hc : plan.count ≤ Limits.uint32)
    (s : Slot) :
    s ∈ plan.slots (.ofNat index) ↔ s.endpoint.toNat = index ∧ s.buffer.toNat < plan.count := by
  simp only [EndpointPlan.slots, List.mem_map, List.mem_range]
  constructor
  · rintro ⟨j, hj, rfl⟩
    exact ⟨toNat_ofNat_of_le hi, by rw [toNat_ofNat_of_le (by omega)]; exact hj⟩
  · rintro ⟨he, hb⟩
    refine ⟨s.buffer.toNat, hb, ?_⟩
    rw [← he, UInt32.ofNat_toNat, UInt32.ofNat_toNat]

theorem nodup_slots (half : UInt32) (hc : plan.count ≤ Limits.uint32) : (plan.slots half).Nodup := by
  refine List.Nodup.map_on ?_ List.nodup_range
  intro i hi j hj h
  have hi := List.mem_range.1 hi
  have hj := List.mem_range.1 hj
  exact ofNat_inj_of_le (by omega) (by omega) (Slot.mk.inj h).2

namespace Equipped

variable {index : Nat} {buffers : List Buffer} {e e' : Engine} {m m' : Machine κ}

theorem index_lt (h : Equipped index plan buffers e m e' m') : index < e.endpoints.count :=
  (List.getElem?_eq_some_iff.1 h.vacant).1

theorem find? (h : Equipped index plan buffers e m e' m') (s : Slot) :
    e'.endpoints.find? s =
      if s.endpoint.toNat = index then (buffers[s.buffer.toNat]?).map (plan.file, ·)
      else e.endpoints.find? s := by
  rw [h.engine]
  exact EndpointTable.find?_install h.index_lt s

theorem find?_vacant (h : Equipped index plan buffers e m e' m') {s : Slot}
    (hs : s.endpoint.toNat = index) : e.endpoints.find? s = none := by
  simp [EndpointTable.find?, EndpointTable.endpoint?, hs, h.vacant]

/-- A buffer of `e'` is one of `e` or one of the new ones. -/
theorem find?_cases (h : Equipped index plan buffers e m e' m') {s : Slot} {file : Int32} {b : Buffer}
    (hf : e'.endpoints.find? s = some (file, b)) :
    (s.endpoint.toNat ≠ index ∧ e.endpoints.find? s = some (file, b)) ∨
    (s.endpoint.toNat = index ∧ file = plan.file ∧ buffers[s.buffer.toNat]? = some b) := by
  rw [h.find?] at hf
  split at hf
  · rename_i hs
    obtain ⟨b', hb', heq⟩ := Option.map_eq_some_iff.1 hf
    simp only [Prod.mk.injEq] at heq
    exact .inr ⟨hs, heq.1.symm, heq.2 ▸ hb'⟩
  · rename_i hs; exact .inl ⟨hs, hf⟩

/-- What is known of a new buffer. -/
theorem new (h : Equipped index plan buffers e m e' m') {s : Slot} {b : Buffer}
    (hs : s.endpoint.toNat = index) (hb : buffers[s.buffer.toNat]? = some b) :
    b.phase = .armed ∧ b.region = ⟨m.memory.cells.length + s.buffer.toNat, plan.size⟩ ∧
      b.header = plan.header ∧
      b.descriptor = b.transfer s plan.direction plan.file e.doorbell.file := by
  obtain ⟨a, rfl, hr, hh⟩ := h.buffer _ b hb
  refine ⟨rfl, hr, hh, ?_⟩
  rw [← hs, UInt32.ofNat_toNat, UInt32.ofNat_toNat]; rfl

/-- Every slot of the endpoint has a new buffer. -/
theorem exists_new (h : Equipped index plan buffers e m e' m') {s : Slot}
    (hs : s.endpoint.toNat = index) (hb : s.buffer.toNat < plan.count) :
    ∃ b, buffers[s.buffer.toNat]? = some b ∧ e'.endpoints.find? s = some (plan.file, b) := by
  have hlt : s.buffer.toNat < buffers.length := by rw [h.length]; exact hb
  refine ⟨buffers[s.buffer.toNat], List.getElem?_eq_getElem hlt, ?_⟩
  rw [h.find?, if_pos hs, List.getElem?_eq_getElem hlt]; rfl

theorem phase?_eq (h : Equipped index plan buffers e m e' m') (s : Slot) :
    e'.endpoints.phase? s =
      if s.endpoint.toNat = index ∧ s.buffer.toNat < plan.count then some .armed
      else e.endpoints.phase? s := by
  by_cases hs : s.endpoint.toNat = index
  · by_cases hb : s.buffer.toNat < plan.count
    · obtain ⟨b, hget, hf⟩ := h.exists_new hs hb
      rw [if_pos ⟨hs, hb⟩, EndpointTable.phase?_of_find? hf, (h.new hs hget).1]
    · rw [if_neg (fun x => hb x.2), EndpointTable.phase?, EndpointTable.phase?, h.find?, if_pos hs,
        h.find?_vacant hs, List.getElem?_eq_none (by rw [h.length]; omega)]
      rfl
  · rw [if_neg (fun x => hs x.1), EndpointTable.phase?, h.find?, if_neg hs]; rfl

theorem count_le (h : Equipped index plan buffers e m e' m') (hs : Sound e) :
    e.owned + plan.count ≤ e.maxEvents ∧ plan.count ≤ Limits.uint32 ∧ index ≤ Limits.uint32 := by
  have := h.fits
  have := h.index_lt
  have := hs.maxEvents_le
  have := hs.owned_le
  have := hs.endpointCount_le
  simp only [available, endpointCount, Limits.uint32, Limits.int32] at *
  omega

theorem keeps (h : Equipped index plan buffers e m e' m') : Keeps e e' where
  context := by rw [h.engine]
  doorbell := by rw [h.engine]
  endpointCount := by rw [h.engine]; exact EndpointTable.count_install
  find? s file b hf := by
    refine ⟨b, ?_, rfl, rfl⟩
    rw [h.find?, if_neg]
    · exact hf
    · intro hi; rw [h.find?_vacant hi] at hf; cases hf

theorem sound (h : Equipped index plan buffers e m e' m') (hs : Sound e) : Sound e' := by
  obtain ⟨hmax, hc, hi⟩ := h.count_le hs
  refine hs.arm (plan.slots (.ofNat index)) (nodup_slots _ hc) ?_ h.keeps
    (by rw [h.engine]) ?_ ?_ (by rw [h.engine]; exact ⟨rfl, rfl⟩) ?_
  · intro s hm
    rw [EndpointTable.phase?, h.find?_vacant ((mem_slots hi hc s).1 hm).1]; simp
  · intro s
    simp only [h.phase?_eq, mem_slots hi hc]
  · intro s file b hf
    rcases h.find?_cases hf with ⟨-, hf⟩ | ⟨hn, rfl, hb⟩
    · exact hs.descriptor s file b hf
    · exact ⟨plan.direction, (h.new hn hb).2.2.2⟩
  · rw [h.engine, EndpointTable.length_buffers_install h.vacant, h.length]
    exact ⟨by rw [hs.owned_eq], hmax⟩

end Equipped

end Engine

end Gadget
