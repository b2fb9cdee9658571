import Gadget.Proofs.Placement
import Gadget.Proofs.Reachable
/-!
# What a tag says

Slots and tags are the same thing in two forms: reading back and writing are inverse both ways, the order of
slots is that of their tags, and in bits a tag is the two halves of a slot side by side. A buffer's
descriptor carries the tag of the buffer's own slot (`Engine.Sound`), so a record with that tag resolves to
that buffer, which is the one whose memory was transferred, and to no other (`Engine.Sound.resolves`).
`Slot.tags_name_slots` puts this together for whatever an engine has under way.
-/
namespace Gadget

namespace Slot

variable {a b s : Slot} {tag : UInt64}

/-! ## Bits -/

/-- The endpoint is shifted into the upper half. -/
theorem toTag_eq_shiftLeft_or (s : Slot) :
    s.toTag = s.endpoint.toUInt64 <<< 32 ||| s.buffer.toUInt64 := by
  have he := s.endpoint.toNat_lt_size
  have hb : s.buffer.toNat < 2 ^ 32 := s.buffer.toNat_lt_size
  have hshift : s.endpoint.toNat <<< 32 % 2 ^ 64 = s.endpoint.toNat <<< 32 := by
    rw [Nat.shiftLeft_eq]
    simp only [UInt32.size] at he
    omega
  apply UInt64.toNat_inj.1
  rw [toNat_toTag, UInt64.toNat_or, UInt64.toNat_shiftLeft, UInt32.toNat_toUInt64, UInt32.toNat_toUInt64]
  change _ = s.endpoint.toNat <<< 32 % 2 ^ 64 ||| s.buffer.toNat
  rw [hshift, ← Nat.shiftLeft_add_eq_or_of_lt hb, Nat.shiftLeft_eq]

/-- The upper half is shifted down, the lower one masked. -/
theorem ofTag_eq_shiftRight_and (tag : UInt64) :
    ofTag tag = ⟨(tag >>> 32).toUInt32, (tag &&& 0xffffffff).toUInt32⟩ := by
  have hupper : (tag >>> 32).toNat = tag.toNat / UInt32.size := by
    rw [UInt64.toNat_shiftRight]
    exact Nat.shiftRight_eq_div_pow tag.toNat 32
  have hlower : (tag &&& 0xffffffff).toNat = tag.toNat % UInt32.size := by
    rw [UInt64.toNat_and]
    exact Nat.and_two_pow_sub_one_eq_mod tag.toNat 32
  have hnarrow : ∀ word : UInt64, word.toUInt32 = .ofNat word.toNat := fun word => rfl
  rw [ofTag, hnarrow, hnarrow, hupper, hlower]

/-! ## Order -/

theorem lt_iff_toTag_lt : a < b ↔ a.toTag < b.toTag := by
  have ha := a.buffer.toNat_lt_size
  have hb := b.buffer.toNat_lt_size
  rw [UInt64.lt_iff_toNat_lt, toNat_toTag, toNat_toTag]
  simp only [lt_iff, UInt32.lt_iff_toNat_lt, ← UInt32.toNat_inj, UInt32.size] at *
  omega

/-- Exactly one slot has a tag. -/
theorem toTag_eq_iff : s.toTag = tag ↔ s = ofTag tag := by
  constructor
  · rintro rfl
    exact (ofTag_toTag s).symm
  · rintro rfl
    exact toTag_ofTag tag

end Slot

namespace Engine

variable {e : Engine} {s : Slot} {file : Int32} {b : Buffer}

/-- A record with this tag is about this buffer, whose descriptor carries the tag and asks for a transfer of
the buffer's own memory, and about no other. -/
structure Resolves (e : Engine) (tag : UInt64) (file : Int32) (b : Buffer) : Prop where
  located : e.endpoints.locate (.ofTag tag) = .ok (file, b)
  own : b.descriptor.tag = tag ∧ b.descriptor.target = some ⟨b.region.number, b.header⟩
  alone : ∀ s file' b', e.endpoints.find? s = some (file', b') → b'.descriptor.tag = tag → s = .ofTag tag
  /-- If it is in flight, its completion changes it and nothing else. -/
  completes : b.phase = .inFlight → ∃ t, e.endpoints.complete (.ofTag tag) = .ok t ∧
    t.find? (.ofTag tag) = some (file, { b with phase := .completed }) ∧
    ∀ s, s ≠ .ofTag tag → t.find? s = e.endpoints.find? s

/-- The tag in a buffer's descriptor is that of the buffer's slot. -/
theorem Sound.tag_eq (h : Sound e) (hf : e.endpoints.find? s = some (file, b)) :
    b.descriptor.tag = s.toTag := by
  obtain ⟨direction, hd⟩ := h.descriptor s file b hf
  rw [hd]
  rfl

theorem Sound.resolves (h : Sound e) (hf : e.endpoints.find? s = some (file, b)) :
    Resolves e s.toTag file b where
  located := by rw [Slot.ofTag_toTag, EndpointTable.locate_of_find? hf]
  own := by
    obtain ⟨direction, hd⟩ := h.descriptor s file b hf
    rw [hd]
    exact ⟨rfl, rfl⟩
  alone s' file' b' hf' htag := by
    rw [← htag, h.tag_eq hf', Slot.ofTag_toTag]
  completes hb := by
    rw [Slot.ofTag_toTag]
    refine ⟨_, EndpointTable.complete_of_inFlight hf hb, EndpointTable.find?_replace_self hf, ?_⟩
    exact fun s' hne => EndpointTable.find?_replace_of_ne _ hne

/-- An operation that the kernel has resolves to the buffer from whose descriptor it was made. -/
theorem Accounted.resolves_operation {count : Nat} {m : Machine SimulatedKernel} {o : Operation}
    (h : Accounted count e m) (hs : Sound e) (ho : o ∈ m.kernel.inFlight) :
    ∃ file b, Resolves e o.descriptor.tag file b ∧ b.phase = .inFlight ∧ b.descriptor = o.descriptor := by
  obtain ⟨file, b, hf, hb⟩ := h.exists_find?_of_mem ho
  have hd : o.descriptor = b.descriptor := by
    rw [(h.operation o ho).2, EndpointTable.descriptorAt_of_find? hf]
  refine ⟨file, b, ?_, hb, hd.symm⟩
  rw [hd, hs.tag_eq hf]
  exact hs.resolves hf

/-- A completion that waits resolves to a buffer in flight. -/
theorem Accounted.resolves_record {count : Nat} {m : Machine SimulatedKernel} {r : Record}
    (h : Accounted count e m) (hs : Sound e) (hr : r ∈ m.kernel.waiting count) :
    ∃ file b, Resolves e r.tag file b ∧ b.phase = .inFlight := by
  obtain ⟨file, b, hf, hb⟩ := h.exists_find?_of_mem_waiting hr
  have htag : r.tag = r.slot.toTag := (Slot.toTag_ofTag r.tag).symm
  refine ⟨file, b, ?_, hb⟩
  rw [htag]
  exact hs.resolves hf

end Engine

/-- **Tags are slots.** Writing a slot as a tag and reading it back are inverse both ways, keep the order,
and are the shifts and masks of the two halves, so that every number stands for exactly one slot. Whatever
kernel an engine has, the tag of a buffer's descriptor resolves to that buffer and to no other. Beside a
kernel that makes up records for endpoints beyond the engine's at most, so does the tag of every operation and
every completion under way, and a made-up record resolves to nothing. -/
theorem Slot.tags_name_slots :
    ((∀ s : Slot, ofTag s.toTag = s) ∧ (∀ tag, (ofTag tag).toTag = tag) ∧
      (∀ a b : Slot, a < b ↔ a.toTag < b.toTag) ∧ ∀ tag, ∃! s : Slot, s.toTag = tag) ∧
    ((∀ s : Slot, s.toTag = s.endpoint.toUInt64 <<< 32 ||| s.buffer.toUInt64) ∧
      ∀ tag, ofTag tag = ⟨(tag >>> 32).toUInt32, (tag &&& 0xffffffff).toUInt32⟩) ∧
    (∀ {κ : Type} [Kernel κ] (e : Engine) (m : Machine κ), e.Reachable m →
      ∀ s file b, e.endpoints.find? s = some (file, b) →
        b.descriptor.tag = s.toTag ∧ e.Resolves b.descriptor.tag file b) ∧
    ∀ (count : Nat) (steps : List Step), SingleEngine (KernelStep.IsTruthful count) steps →
      ∀ e, (Session.run steps (.boot .fresh)).engine = some e → e.endpointCount ≤ count →
        let k := (Session.run steps (.boot .fresh)).machine.kernel
        (∀ o ∈ k.inFlight, ∃ file b, e.Resolves o.descriptor.tag file b ∧ b.phase = .inFlight ∧
          b.descriptor = o.descriptor) ∧
        ∀ r ∈ k.ready,
          (r.isAbout count → ∃ file b, e.Resolves r.tag file b ∧ b.phase = .inFlight) ∧
          (¬ r.isAbout count → e.endpoints.find? r.slot = none) := by
  refine ⟨⟨ofTag_toTag, toTag_ofTag, fun a b => lt_iff_toTag_lt, fun tag => ?_⟩,
    ⟨toTag_eq_shiftLeft_or, ofTag_eq_shiftRight_and⟩, ?_, ?_⟩
  · exact ⟨ofTag tag, toTag_ofTag tag, fun s hs => toTag_eq_iff.1 hs⟩
  · intro κ _ e m h s file b hf
    have htag := h.sound.tag_eq hf
    exact ⟨htag, htag ▸ h.sound.resolves hf⟩
  · intro count steps h e he hcount
    rw [← Watched.session_run] at he ⊢
    have hc := h.course he
    have hs := hc.sound
    have ha := hc.accounted hcount
    refine ⟨fun o ho => ha.resolves_operation hs ho, fun r hr => ⟨fun habout => ?_, fun hforeign => ?_⟩⟩
    · exact ha.resolves_record hs (List.mem_filter.2 ⟨hr, habout⟩)
    · cases hf : e.endpoints.find? r.slot with
      | none => rfl
      | some found =>
        have hlt : r.slot.endpoint.toNat < e.endpointCount := EndpointTable.endpoint_lt_of_find? hf
        exact absurd (decide_eq_true (Nat.lt_of_lt_of_le hlt hcount)) hforeign

/-- Beside a completion, an operation and a made-up record: the operation of the second endpoint resolves to
that endpoint's buffer. -/
theorem Slot.tags_name_slots_beside_foreign : ∃ (e : Engine) (o : Operation) (file : Int32) (b : Buffer),
    let steps : List Step :=
      [.command (.createEquipped [⟨7, .read, 2, 2, 1⟩, ⟨8, .write, 1, 4, 0⟩]), .command (.call .submit),
        .kernel (.complete ⟨0, 1⟩ [5] 1), .kernel (.inject (Slot.toTag ⟨9, 1⟩) 4)]
    (Session.run steps (.boot .fresh)).engine = some e ∧
      o ∈ (Session.run steps (.boot .fresh)).machine.kernel.inFlight ∧
      o.descriptor.tag = 0x100000000 ∧ e.Resolves 0x100000000 file b ∧ b.phase = .inFlight := by
  let steps : List Step :=
    [.command (.createEquipped [⟨7, .read, 2, 2, 1⟩, ⟨8, .write, 1, 4, 0⟩]), .command (.call .submit),
      .kernel (.complete ⟨0, 1⟩ [5] 1), .kernel (.inject (Slot.toTag ⟨9, 1⟩) 4)]
  have hsingle : SingleEngine (KernelStep.IsTruthful 2) steps := by decide
  have hcount : (Session.run steps (.boot .fresh)).engine.map Engine.endpointCount = some 2 := by
    decide +kernel
  obtain ⟨e, he, hcount⟩ := Option.map_eq_some_iff.1 hcount
  have htags : (Session.run steps (.boot .fresh)).machine.kernel.inFlight.map (·.descriptor.tag) =
      [0, 0x100000000] := by decide +kernel
  obtain ⟨o, ho, htag⟩ := List.mem_map.1 (htags ▸ List.mem_cons_of_mem 0 List.mem_cons_self)
  obtain ⟨-, -, -, hrun⟩ := Slot.tags_name_slots
  obtain ⟨file, b, hresolves, hb, -⟩ := (hrun 2 steps hsingle e he (by omega)).1 o ho
  rw [htag] at hresolves
  exact ⟨e, o, file, b, he, ho, htag, hresolves, hb⟩

end Gadget
