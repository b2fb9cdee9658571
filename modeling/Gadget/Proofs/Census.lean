import Gadget.Proofs.Sound
import Mathlib.Data.List.Nodup
/-!
# Counting buffers by phase

`EndpointTable.slots` lists the slots of a table in the order of its buffers (`map_find?_slots`), each
once (`slots_nodup`). So the buffers in a phase are as many as the slots in that phase
(`length_eq_countP`), and since no buffer of a sound engine is idle, those that wait, those in flight and
those that are completed make up all that it owns (`Engine.Sound.census`).
-/
namespace Gadget

namespace EndpointTable

variable {t : EndpointTable}

/-- The slots are those of the buffers, in the same order. -/
theorem map_find?_slots (hc : t.count ≤ Limits.uint32) (hb : t.buffers.length ≤ Limits.uint32) :
    t.slots.map (fun s => (t.find? s).map (·.2)) = t.buffers.map some := by
  rw [slots, buffers, List.map_flatMap, List.map_flatMap]
  conv_rhs => rw [← List.zipIdx_map_fst 0 t.entries, List.flatMap_map]
  refine List.flatMap_congr ?_
  rintro ⟨entry, i⟩ hm
  have hi := List.mem_zipIdx_iff_getElem?.1 hm
  cases entry with
  | none => rfl
  | some e =>
    simp only [Option.map_some, Option.getD_some, List.map_map]
    apply List.ext_getElem?
    intro j
    rw [List.getElem?_map, List.getElem?_map]
    by_cases hj : j < e.buffers.length
    · have hf := find?_ofNat hc hb hi (List.getElem?_eq_getElem hj)
      rw [List.getElem?_range hj, List.getElem?_eq_getElem hj]
      simp [hf]
    · rw [List.getElem?_eq_none (by simpa using hj), List.getElem?_eq_none (by simpa using hj)]; rfl

/-- No slot is listed twice. -/
theorem slots_nodup (hc : t.count ≤ Limits.uint32) (hb : t.buffers.length ≤ Limits.uint32) :
    t.slots.Nodup := by
  refine List.nodup_flatMap.2 ⟨?_, ?_⟩
  · rintro ⟨entry, i⟩ hm
    have hi := List.mem_zipIdx_iff_getElem?.1 hm
    refine List.Nodup.map_on ?_ List.nodup_range
    intro j hj k hk h
    cases entry with
    | none => simp at hj
    | some e =>
      have hlen := length_le_length_buffers hi
      have hj := List.mem_range.1 hj
      have hk := List.mem_range.1 hk
      simp only [Option.map_some, Option.getD_some] at hj hk
      exact ofNat_inj_of_le (by omega) (by omega) (Slot.mk.inj h).2
  · have hinc : (t.entries.zipIdx.map Prod.snd).Pairwise (· < ·) := by
      rw [List.zipIdx_map_snd]; exact List.pairwise_lt_range'
    rw [List.pairwise_map] at hinc
    refine hinc.imp_of_mem ?_
    rintro ⟨entry, i⟩ ⟨entry', i'⟩ hm hm' hlt s hs hs'
    obtain ⟨j, -, rfl⟩ := List.mem_map.1 hs
    obtain ⟨j', -, h⟩ := List.mem_map.1 hs'
    have hi := (List.getElem?_eq_some_iff.1 (List.mem_zipIdx_iff_getElem?.1 hm)).1
    have hi' := (List.getElem?_eq_some_iff.1 (List.mem_zipIdx_iff_getElem?.1 hm')).1
    simp only [count] at hc hi hi' hlt
    have := ofNat_inj_of_le (by omega) (by omega) (Slot.mk.inj h).1
    omega

/-- The buffers in a phase are as many as the slots in it. -/
theorem length_eq_countP (hc : t.count ≤ Limits.uint32) (hb : t.buffers.length ≤ Limits.uint32)
    {p : Phase} {l : List Slot} (hn : l.Nodup) (hl : ∀ s, s ∈ l ↔ t.phase? s = some p) :
    l.length = t.buffers.countP (·.phase = p) := by
  have hperm : l.Perm (t.slots.filter (t.phase? · = some p)) := by
    refine (List.perm_ext_iff_of_nodup hn ((slots_nodup hc hb).filter _)).2 ?_
    intro s
    rw [hl, List.mem_filter, decide_eq_true_eq]
    refine ⟨fun hp => ⟨?_, hp⟩, fun h => h.2⟩
    obtain ⟨file, b, hf, -⟩ := phase?_eq_some_iff.1 hp
    exact mem_slots_of_find? hf
  calc l.length
      = t.slots.countP (t.phase? · = some p) := by
        rw [hperm.length_eq, List.countP_eq_length_filter]
    _ = (t.slots.map fun s => (t.find? s).map (·.2)).countP fun b => b.map Buffer.phase = some p := by
        rw [List.countP_map]
        refine List.countP_congr fun s _ => ?_
        simp only [phase?, Function.comp, Option.map_map]
        rfl
    _ = t.buffers.countP (·.phase = p) := by
        rw [map_find?_slots hc hb, List.countP_map]
        refine List.countP_congr fun b _ => ?_
        simp

end EndpointTable

namespace Engine

/-- A sound engine has no more buffers than half a slot can name. -/
theorem Sound.length_buffers_le {e : Engine} (h : Sound e) :
    e.endpoints.buffers.length ≤ Limits.uint32 := by
  have := h.owned_eq
  have := h.owned_le
  have := h.maxEvents_le
  simp only [Limits.int32, Limits.uint32] at *; omega

/-- Every buffer is that of a slot. -/
theorem Sound.exists_find? {e : Engine} (h : Sound e) {b : Buffer} (hb : b ∈ e.endpoints.buffers) :
    ∃ s file, e.endpoints.find? s = some (file, b) :=
  EndpointTable.exists_find?_of_mem_buffers h.endpointCount_le h.length_buffers_le hb

/-- A sound engine has no idle buffer. -/
theorem Sound.phase_ne_idle {e : Engine} (h : Sound e) {b : Buffer} (hb : b ∈ e.endpoints.buffers) :
    b.phase ≠ .idle := by
  intro hp
  obtain ⟨s, file, hf⟩ := h.exists_find? hb
  exact h.not_idle s (by rw [EndpointTable.phase?_of_find? hf, hp])

/-- Buffers that are not idle are in one of three phases. -/
theorem countP_phases {bs : List Buffer} (h : ∀ b ∈ bs, b.phase ≠ .idle) :
    bs.countP (·.phase = .armed) + bs.countP (·.phase = .inFlight) +
      bs.countP (·.phase = .completed) = bs.length := by
  induction bs with
  | nil => rfl
  | cons b bs ih =>
    have ih := ih fun x hx => h x (by simp [hx])
    have hb := h b (by simp)
    simp only [List.countP_cons, List.length_cons]
    cases hp : b.phase with
    | idle => exact absurd hp hb
    | armed => simp; omega
    | inFlight => simp; omega
    | completed => simp; omega

/-- **Every buffer is accounted for**: it waits, is in flight or is completed. -/
theorem Sound.census {e : Engine} (h : Sound e) :
    e.backlog.length + e.endpoints.inFlight + e.endpoints.buffers.countP (·.phase = .completed) =
      e.owned := by
  have hwaiting := EndpointTable.length_eq_countP h.endpointCount_le h.length_buffers_le
    h.backlog_nodup h.mem_backlog
  rw [Backlog.length, hwaiting, EndpointTable.inFlight, h.owned_eq]
  exact countP_phases fun b hb => h.phase_ne_idle hb

end Engine

end Gadget
