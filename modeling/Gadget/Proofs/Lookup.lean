import Gadget.Endpoint.Table
import Mathlib.Data.List.Perm.Subperm
/-!
# Looking up slots

`EndpointTable.find?` is the one view of the table that the laws of the engine use. This module
says what each change of the table does to it: `install` adds the buffers of one endpoint,
`replace` changes one slot, `launch` moves a list of slots from armed to in flight
(`launch_spec`), and none of them touches any other slot. The total number of buffers follows the
same changes.
-/
namespace Gadget

/-- A small number survives as half a slot. -/
theorem toNat_ofNat_of_le {n : Nat} (h : n ≤ Limits.uint32) : (UInt32.ofNat n).toNat = n :=
  UInt32.toNat_ofNat_of_lt' (by simp only [Limits.uint32, UInt32.size] at *; omega)

theorem ofNat_inj_of_le {i j : Nat} (hi : i ≤ Limits.uint32) (hj : j ≤ Limits.uint32)
    (h : UInt32.ofNat i = UInt32.ofNat j) : i = j := by
  rw [← toNat_ofNat_of_le hi, h, toNat_ofNat_of_le hj]

/-- The buffer in another phase. -/
def Buffer.inPhase (p : Phase) (b : Buffer) : Buffer := { b with phase := p }

@[simp] theorem Buffer.inPhase_phase (p : Phase) (b : Buffer) : (b.inPhase p).phase = p := rfl

@[simp] theorem Buffer.inPhase_region (p : Phase) (b : Buffer) : (b.inPhase p).region = b.region := rfl

@[simp] theorem Buffer.inPhase_header (p : Phase) (b : Buffer) : (b.inPhase p).header = b.header := rfl

@[simp] theorem Buffer.inPhase_descriptor (p : Phase) (b : Buffer) :
    (b.inPhase p).descriptor = b.descriptor := rfl

@[simp] theorem Buffer.inPhase_inPhase (p q : Phase) (b : Buffer) :
    (b.inPhase p).inPhase q = b.inPhase q := rfl

namespace EndpointTable

variable {t : EndpointTable} {s slot : Slot} {file : Int32} {a b : Buffer}

theorem find?_eq_some_iff :
    t.find? s = some (file, b) ↔
      ∃ e, t.entries[s.endpoint.toNat]? = some (some e) ∧ e.file = file ∧
        e.buffers[s.buffer.toNat]? = some b := by
  unfold find? endpoint?
  cases h : t.entries[s.endpoint.toNat]? with
  | none => simp
  | some entry => cases entry <;> simp [and_comm]

/-- The endpoint of a slot with a buffer is one of the table. -/
theorem endpoint_lt_of_find? (h : t.find? s = some (file, b)) : s.endpoint.toNat < t.count := by
  obtain ⟨e, he, -, -⟩ := find?_eq_some_iff.1 h
  exact (List.getElem?_eq_some_iff.1 he).1

/-- The phase of the buffer in a slot. -/
def phase? (t : EndpointTable) (s : Slot) : Option Phase := (t.find? s).map (·.2.phase)

theorem phase?_eq_some_iff {p : Phase} :
    t.phase? s = some p ↔ ∃ file b, t.find? s = some (file, b) ∧ b.phase = p := by
  simp [phase?, Prod.exists]

theorem phase?_of_find? (h : t.find? s = some (file, b)) : t.phase? s = some b.phase := by
  simp [phase?, h]

/-- The descriptor of the buffer in a slot. -/
def descriptorAt (t : EndpointTable) (s : Slot) : Descriptor :=
  match t.find? s with
  | some (_, b) => b.descriptor
  | none => .zero

theorem descriptorAt_of_find? (h : t.find? s = some (file, b)) : t.descriptorAt s = b.descriptor := by
  simp [descriptorAt, h]

theorem locate_of_find? (h : t.find? s = some (file, b)) : t.locate s = .ok (file, b) := by
  simp [locate, h]

theorem locate_of_none (h : t.find? s = none) :
    t.locate s = .error (.brokenContract (.unknownSlot s)) := by
  simp [locate, h]

/-! ## One slot -/

theorem find?_replace (h : t.find? slot = some (file, a)) (s : Slot) :
    (t.replace slot b).find? s = if s = slot then some (file, b) else t.find? s := by
  by_cases hs : s = slot
  · rw [if_pos hs, hs, find?_replace_self h]
  · rw [if_neg hs, find?_replace_of_ne b hs]

@[simp] theorem count_replace : (t.replace slot b).count = t.count := by
  simp [count, replace]

theorem length_flatMap_modify {α β : Type} (f : α → List β) (g : α → α)
    (hg : ∀ x, (f (g x)).length = (f x).length) (i : Nat) (l : List α) :
    ((l.modify i g).flatMap f).length = (l.flatMap f).length := by
  induction l generalizing i with
  | nil => simp
  | cons x xs ih =>
    cases i with
    | zero => simp [hg]
    | succ i => simpa using ih i

@[simp] theorem length_buffers_replace : (t.replace slot b).buffers.length = t.buffers.length := by
  unfold buffers replace
  refine length_flatMap_modify _ _ ?_ _ _
  intro entry
  cases entry <;> simp

/-! ## A whole endpoint -/

theorem find?_install {index : Nat} {e : Endpoint} (h : index < t.count) (s : Slot) :
    (t.install index e).find? s =
      if s.endpoint.toNat = index then (e.buffers[s.buffer.toNat]?).map (e.file, ·)
      else t.find? s := by
  unfold find? endpoint? install
  by_cases hs : s.endpoint.toNat = index
  · rw [if_pos hs, hs, List.getElem?_set_self h]; rfl
  · rw [if_neg hs, List.getElem?_set_ne (Ne.symm hs)]

@[simp] theorem count_install {index : Nat} {e : Endpoint} :
    (t.install index e).count = t.count := by
  simp [count, install]

theorem length_flatMap_set {α β : Type} (f : α → List β) {l : List α} {i : Nat} {x y : α}
    (h : l[i]? = some x) :
    ((l.set i y).flatMap f).length + (f x).length = (l.flatMap f).length + (f y).length := by
  induction l generalizing i with
  | nil => simp at h
  | cons z zs ih =>
    cases i with
    | zero =>
      simp only [List.getElem?_cons_zero, Option.some.injEq] at h
      subst h
      simp only [List.set_cons_zero, List.flatMap_cons, List.length_append]; omega
    | succ i =>
      have := ih (i := i) (by simpa using h)
      simp only [List.set_cons_succ, List.flatMap_cons, List.length_append]; omega

theorem length_buffers_install {index : Nat} {e : Endpoint} (h : t.entries[index]? = some none) :
    (t.install index e).buffers.length = t.buffers.length + e.buffers.length := by
  have := length_flatMap_set (fun entry : Option Endpoint => (entry.map Endpoint.buffers).getD [])
    (y := some e) h
  simpa [buffers, install] using this

/-! ## Every buffer has a slot -/

theorem length_le_length_buffers {i : Nat} {e : Endpoint} (h : t.entries[i]? = some (some e)) :
    e.buffers.length ≤ t.buffers.length := by
  have hm : some e ∈ t.entries := List.mem_of_getElem? h
  have hsub : e.buffers.Sublist t.buffers := by
    have := List.sublist_flatten_of_mem (List.mem_map_of_mem
      (f := fun entry : Option Endpoint => (entry.map Endpoint.buffers).getD []) hm)
    simpa [buffers, List.flatMap] using this
  exact hsub.length_le

/-- Slots name a buffer by its place, unless the table is too large for that. -/
theorem find?_ofNat (hc : t.count ≤ Limits.uint32) (hb : t.buffers.length ≤ Limits.uint32) {i j : Nat}
    {e : Endpoint} (hi : t.entries[i]? = some (some e)) (hj : e.buffers[j]? = some b) :
    t.find? ⟨.ofNat i, .ofNat j⟩ = some (e.file, b) := by
  have hlen := length_le_length_buffers hi
  have hi' := (List.getElem?_eq_some_iff.1 hi).1
  have hj' := (List.getElem?_eq_some_iff.1 hj).1
  unfold count at hc
  refine find?_eq_some_iff.2 ⟨e, ?_, rfl, ?_⟩
  · show t.entries[(UInt32.ofNat i).toNat]? = some (some e)
    rw [toNat_ofNat_of_le (by omega), hi]
  · show e.buffers[(UInt32.ofNat j).toNat]? = some b
    rw [toNat_ofNat_of_le (by omega), hj]

theorem mem_buffers_of_find? (h : t.find? s = some (file, b)) : b ∈ t.buffers := by
  obtain ⟨e, he, -, hb⟩ := find?_eq_some_iff.1 h
  exact List.mem_flatMap.2 ⟨some e, List.mem_of_getElem? he, List.mem_of_getElem? hb⟩

/-- A table that is not too large for slots names every buffer by one. -/
theorem exists_find?_of_mem_buffers (hc : t.count ≤ Limits.uint32)
    (hb : t.buffers.length ≤ Limits.uint32) (h : b ∈ t.buffers) :
    ∃ s file, t.find? s = some (file, b) := by
  simp only [buffers, List.mem_flatMap] at h
  obtain ⟨entry, he, hbe⟩ := h
  cases entry with
  | none => simp at hbe
  | some e =>
    obtain ⟨i, hi⟩ := List.getElem?_of_mem he
    obtain ⟨j, hj⟩ := List.getElem?_of_mem (by simpa using hbe)
    exact ⟨_, e.file, find?_ofNat hc hb hi hj⟩

/-- The slots of all buffers, endpoint by endpoint. -/
def slots (t : EndpointTable) : List Slot :=
  t.entries.zipIdx.flatMap fun (entry, i) =>
    (List.range ((entry.map Endpoint.buffers).getD []).length).map fun j => ⟨.ofNat i, .ofNat j⟩

theorem length_slots (t : EndpointTable) : t.slots.length = t.buffers.length := by
  have key : ∀ (l : List (Option Endpoint)) (k : Nat),
      ((l.zipIdx k).flatMap fun (entry, i) =>
        (List.range ((entry.map Endpoint.buffers).getD []).length).map
          fun j => (⟨.ofNat i, .ofNat j⟩ : Slot)).length =
        (l.flatMap fun entry => (entry.map Endpoint.buffers).getD []).length := by
    intro l
    induction l with
    | nil => intro k; rfl
    | cons entry l ih =>
      intro k
      rw [List.zipIdx_cons, List.flatMap_cons, List.flatMap_cons, List.length_append,
        List.length_append, ih, List.length_map, List.length_range]
  exact key t.entries 0

theorem mem_slots_of_find? (h : t.find? s = some (file, b)) : s ∈ t.slots := by
  obtain ⟨e, he, -, hb⟩ := find?_eq_some_iff.1 h
  refine List.mem_flatMap.2 ⟨(some e, s.endpoint.toNat), ?_, List.mem_map.2 ⟨s.buffer.toNat, ?_, ?_⟩⟩
  · exact List.mem_zipIdx_iff_getElem?.2 he
  · exact List.mem_range.2 (List.getElem?_eq_some_iff.1 hb).1
  · rw [UInt32.ofNat_toNat, UInt32.ofNat_toNat]

/-- There are no more distinct slots with a buffer than there are buffers. -/
theorem length_le_of_found {l : List Slot} (hn : l.Nodup) (h : ∀ s ∈ l, (t.find? s).isSome) :
    l.length ≤ t.buffers.length := by
  rw [← length_slots]
  refine (hn.subperm ?_).length_le
  intro s hs
  obtain ⟨⟨file, b⟩, hf⟩ := Option.isSome_iff_exists.1 (h s hs)
  exact mem_slots_of_find? hf

/-! ## Descriptors of a list of slots -/

theorem descriptors_eq {slots : List Slot} (h : ∀ s ∈ slots, (t.find? s).isSome) :
    t.descriptors slots = .ok (slots.map t.descriptorAt) := by
  induction slots with
  | nil => rfl
  | cons s ss ih =>
    obtain ⟨⟨file, b⟩, hf⟩ := Option.isSome_iff_exists.1 (h s (by simp))
    simp [descriptors, locate_of_find? hf, descriptorAt_of_find? hf,
      ih fun s hs => h s (by simp [hs]), Except.map]

/-! ## Changing the phase of a list of slots -/

/-- `t'` is `t` with the buffers of the given slots in phase `p`. -/
structure Moved (slots : List Slot) (p : Phase) (t t' : EndpointTable) : Prop where
  find? : ∀ s, t'.find? s =
    if s ∈ slots then (t.find? s).map fun x => (x.1, x.2.inPhase p) else t.find? s
  count : t'.count = t.count
  length : t'.buffers.length = t.buffers.length

namespace Moved

variable {slots : List Slot} {p : Phase} {t t' t'' : EndpointTable}

theorem nil (t : EndpointTable) (p : Phase) : Moved [] p t t := ⟨by simp, rfl, rfl⟩

theorem cons {s : Slot} (h : t.find? s = some (file, b))
    (ht : Moved slots p (t.replace s (b.inPhase p)) t') : Moved (s :: slots) p t t' where
  find? x := by
    rw [ht.find?, find?_replace h]
    by_cases hx : x = s
    · subst hx; simp [h]
    · simp [hx]
  count := by rw [ht.count, count_replace]
  length := by rw [ht.length, length_buffers_replace]

theorem phase?_eq (h : Moved slots p t t') (s : Slot) :
    t'.phase? s = if s ∈ slots then (t.phase? s).map fun _ => p else t.phase? s := by
  unfold EndpointTable.phase?
  rw [h.find?]
  split
  · cases t.find? s <;> rfl
  · rfl

/-- Apart from its phase a buffer stays as it is. -/
theorem exists_find? (h : Moved slots p t t') (hf : t.find? s = some (file, b)) :
    ∃ q, t'.find? s = some (file, b.inPhase q) := by
  rw [h.find?]
  split
  · exact ⟨p, by simp [hf]⟩
  · exact ⟨b.phase, hf⟩

theorem find?_of_find? (h : Moved slots p t t') (hf : t'.find? s = some (file, b)) :
    ∃ q, t.find? s = some (file, b.inPhase q) := by
  rw [h.find?] at hf
  split at hf
  · obtain ⟨⟨f, b'⟩, hb', heq⟩ := Option.map_eq_some_iff.1 hf
    simp only [Prod.mk.injEq] at heq
    obtain ⟨rfl, rfl⟩ := heq
    exact ⟨b'.phase, hb'⟩
  · exact ⟨b.phase, hf⟩

theorem descriptorAt_eq (h : Moved slots p t t') (s : Slot) :
    t'.descriptorAt s = t.descriptorAt s := by
  cases hf : t.find? s with
  | none =>
    have : t'.find? s = none := by rw [h.find?, hf]; simp
    simp [descriptorAt, hf, this]
  | some x =>
    obtain ⟨q, hq⟩ := h.exists_find? hf
    rw [descriptorAt_of_find? hf, descriptorAt_of_find? hq, Buffer.inPhase_descriptor]

end Moved

/-- Launching distinct armed slots succeeds and does nothing else. -/
theorem launch_spec {slots : List Slot} (hn : slots.Nodup)
    (ha : ∀ s ∈ slots, t.phase? s = some .armed) :
    ∃ t', launch slots t = (.ok (), t') ∧ Moved slots .inFlight t t' := by
  induction slots generalizing t with
  | nil => exact ⟨t, rfl, .nil t _⟩
  | cons s ss ih =>
    obtain ⟨hs, hn⟩ := List.nodup_cons.1 hn
    obtain ⟨file, b, hf, hp⟩ := phase?_eq_some_iff.1 (ha s (by simp))
    have ha' : ∀ x ∈ ss, (t.replace s (b.inPhase .inFlight)).phase? x = some .armed := by
      intro x hx
      have hne : x ≠ s := fun he => hs (he ▸ hx)
      rw [phase?, find?_replace_of_ne _ hne]
      exact ha x (by simp [hx])
    obtain ⟨t', ht, hm⟩ := ih hn ha'
    refine ⟨t', ?_, .cons hf hm⟩
    simp only [launch, locate_of_find? hf, Buffer.launch, hp, if_true]
    exact ht

end EndpointTable

end Gadget
