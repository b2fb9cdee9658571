import Gadget.Proofs.Course
import Gadget.Proofs.Regions
/-!
# Every buffer has its own region

`Engine.Housed` ties the engine to the memory beside it: each buffer lies in a region that is
allocated and as long as the plan of its endpoint says, and no two buffers share one. Regions are
numbered by allocation and no run of an engine releases one of its buffers, so the invariant only
has to survive new regions and writes, and a write keeps every length.
-/
namespace Gadget.Engine

variable {κ : Type} {l l' : Ledger} {e e' : Engine} {m m' : Machine κ} {s : Slot} {file : Int32}
  {b : Buffer}

/-- Where the buffers of an engine lie. -/
structure Housed (l : Ledger) (e : Engine) (m : Machine κ) : Prop where
  /-- A buffer has the geometry that its endpoint was equipped with. -/
  plan : ∀ s file b, e.endpoints.find? s = some (file, b) → ∃ plan, l.plan? s = some plan ∧
    file = plan.file ∧ b.region.size = plan.size ∧ b.header = plan.header
  live : ∀ s file b, e.endpoints.find? s = some (file, b) →
    m.memory.length? b.region.number = some b.region.size
  size_le : ∀ s file b, e.endpoints.find? s = some (file, b) → b.region.size ≤ Limits.int64
  apart : ∀ s s' file file' b b', e.endpoints.find? s = some (file, b) →
    e.endpoints.find? s' = some (file', b') → b.region.number = b'.region.number → s = s'

theorem Housed.length_bytes (h : Housed l e m) (hf : e.endpoints.find? s = some (file, b)) :
    (b.bytes m.memory).length = b.region.size :=
  Memory.length_bytes (h.live s file b hf)

/-- Regions of different slots are different. -/
theorem Housed.region_ne (h : Housed l e m) {s' : Slot} {file' : Int32} {b' : Buffer}
    (hf : e.endpoints.find? s = some (file, b)) (hf' : e.endpoints.find? s' = some (file', b'))
    (hne : s ≠ s') : b.region.number ≠ b'.region.number :=
  fun he => hne (h.apart s s' file file' b b' hf hf' he)

/-- If no buffer came or moved and no region went away, buffers lie where they lay. -/
theorem Housed.of_same (h : Housed l e m) (hplans : l'.plans = l.plans)
    (hfind : ∀ s file b', e'.endpoints.find? s = some (file, b') →
      ∃ b, e.endpoints.find? s = some (file, b) ∧ b'.region = b.region ∧ b'.header = b.header)
    (hmem : ∀ region size, m.memory.length? region = some size →
      m'.memory.length? region = some size) : Housed l' e' m' where
  plan s file b' hf := by
    obtain ⟨b, hf, hr, hh⟩ := hfind s file b' hf
    rw [hr, hh, Ledger.plan?, hplans]
    exact h.plan s file b hf
  live s file b' hf := by
    obtain ⟨b, hf, hr, -⟩ := hfind s file b' hf
    rw [hr]
    exact hmem _ _ (h.live s file b hf)
  size_le s file b' hf := by
    obtain ⟨b, hf, hr, -⟩ := hfind s file b' hf
    rw [hr]
    exact h.size_le s file b hf
  apart s₁ s₂ f₁ f₂ b₁ b₂ h₁ h₂ he := by
    obtain ⟨a₁, h₁, hr₁, -⟩ := hfind s₁ f₁ b₁ h₁
    obtain ⟨a₂, h₂, hr₂, -⟩ := hfind s₂ f₂ b₂ h₂
    rw [hr₁, hr₂] at he
    exact h.apart s₁ s₂ f₁ f₂ a₁ a₂ h₁ h₂ he

theorem Housed.of_moved {slots : List Slot} {p : Phase} (h : Housed l e m)
    (hplans : l'.plans = l.plans) (hm : EndpointTable.Moved slots p e.endpoints e'.endpoints)
    (hmem : m'.memory = m.memory) : Housed l' e' m' := by
  refine h.of_same hplans ?_ fun _ _ hl => by rw [hmem]; exact hl
  intro s file b' hf
  obtain ⟨q, hq⟩ := hm.find?_of_find? hf
  exact ⟨b'.inPhase q, hq, rfl, rfl⟩

theorem Housed.of_rearmed {slot : Slot} {direction : Direction} {contents : List UInt8}
    (h : Housed l e m) (hr : Rearmed slot direction file b e m e' m') :
    Housed (l.noteArm slot direction contents) e' m' := by
  refine h.of_same rfl ?_ fun _ _ hl => by rw [hr.machine]; exact hl
  intro s f b' hf
  rw [hr.find?_eq] at hf
  split at hf
  · rename_i hs
    cases hf
    exact ⟨b, hs ▸ hr.find?, rfl, rfl⟩
  · exact ⟨b', hf, rfl, rfl⟩

theorem Housed.of_equipped {index : Nat} {plan : EndpointPlan} {buffers : List Buffer}
    (h : Housed l e m) (hq : Equipped index plan buffers e m e' m') :
    Housed (l.noteEquip index plan) e' m' := by
  have hcells := hq.machine.cells
  refine ⟨?_, ?_, ?_, ?_⟩
  · intro s file b hf
    rw [Ledger.plan?_noteEquip]
    rcases hq.find?_cases hf with ⟨hne, hf⟩ | ⟨hs, rfl, hb⟩
    · rw [if_neg hne]; exact h.plan s file b hf
    · obtain ⟨-, hr, hh, -⟩ := hq.new hs hb
      rw [if_pos hs, hr, hh]
      exact ⟨plan, rfl, rfl, rfl, rfl⟩
  · intro s file b hf
    rcases hq.find?_cases hf with ⟨hne, hf⟩ | ⟨hs, rfl, hb⟩
    · exact Memory.length?_append hcells (h.live s file b hf)
    · have hlt := (List.getElem?_eq_some_iff.1 hb).1
      rw [hq.length] at hlt
      rw [(hq.new hs hb).2.1]
      exact (Memory.new_region hcells hlt).1
  · intro s file b hf
    rcases hq.find?_cases hf with ⟨hne, hf⟩ | ⟨hs, rfl, hb⟩
    · exact h.size_le s file b hf
    · rw [(hq.new hs hb).2.1]; exact hq.size_le
  · -- an old region has a number below the new ones
    intro s₁ s₂ f₁ f₂ b₁ b₂ h₁ h₂ he
    rcases hq.find?_cases h₁ with ⟨-, h₁⟩ | ⟨hs₁, rfl, hb₁⟩
    · rcases hq.find?_cases h₂ with ⟨-, h₂⟩ | ⟨hs₂, rfl, hb₂⟩
      · exact h.apart s₁ s₂ f₁ f₂ b₁ b₂ h₁ h₂ he
      · have := Memory.lt_of_length? (h.live s₁ f₁ b₁ h₁)
        rw [he, (hq.new hs₂ hb₂).2.1] at this
        simp only at this; omega
    · rcases hq.find?_cases h₂ with ⟨-, h₂⟩ | ⟨hs₂, rfl, hb₂⟩
      · have := Memory.lt_of_length? (h.live s₂ f₂ b₂ h₂)
        rw [← he, (hq.new hs₁ hb₁).2.1] at this
        simp only at this; omega
      · rw [(hq.new hs₁ hb₁).2.1, (hq.new hs₂ hb₂).2.1] at he
        have hbuf : s₁.buffer = s₂.buffer := UInt32.toNat_inj.1 (Nat.add_left_cancel he)
        have hend : s₁.endpoint = s₂.endpoint := UInt32.toNat_inj.1 (hs₁.trans hs₂.symm)
        exact Slot.ext hend hbuf

variable [Kernel κ]

theorem Housed.effect (h : Housed l e m) (heff : Effect l e m l' e' m') : Housed l' e' m' := by
  have hid : ∀ s file b', e.endpoints.find? s = some (file, b') →
      ∃ b, e.endpoints.find? s = some (file, b) ∧ b'.region = b.region ∧ b'.header = b.header :=
    fun s file b' hf => ⟨b', hf, rfl, rfl⟩
  cases heff with
  | nothing => exact h
  | allocationFailed hg => exact h.of_same rfl hid fun _ _ hl => Memory.length?_append hg.cells hl
  | equipped hq => exact h.of_equipped hq
  | wrote hf hp => exact h.of_same rfl hid fun _ _ hl =>
    (Memory.length?_overwrite _ _).trans hl
  | rearmed hr => exact h.of_rearmed hr
  | submitFailed hs => exact h.of_same rfl hid fun _ _ hl => by rw [hs.memory]; exact hl
  | submitted hs => exact h.of_moved rfl hs.endpoints hs.memory
  | pollFailed hp => exact h.of_same rfl hid fun _ _ hl => by rw [hp.memory]; exact hl
  | polled hp => exact h.of_moved rfl hp.settles.moved hp.memory

theorem Created.housed {endpointCount maxEvents : Nat}
    (h : Created endpointCount maxEvents m e m') : Housed .empty e m' := by
  have hnone : ∀ s file b, e.endpoints.find? s ≠ some (file, b) := fun s file b hf => by
    rw [h.find?_eq_none] at hf; cases hf
  exact ⟨fun s f b hf => absurd hf (hnone s f b), fun s f b hf => absurd hf (hnone s f b),
    fun s f b hf => absurd hf (hnone s f b), fun s _ f _ b _ hf => absurd hf (hnone s f b)⟩

/-- **In every run each buffer has a region of its own**, as large as its plan says. -/
theorem Course.housed {env : Environment κ} (h : Course env l e m) : Housed l e m := by
  induction h with
  | created hs h => exact (create_eq_ok h).housed
  | @called l e m call h ih => exact ih.effect (perform_effect h.sound call l m)
  | @passed l l' e m m' h hw ih =>
    obtain ⟨hd, hplans, -, -⟩ := env.drift l e m l' m' hw
    exact ih.of_same hplans (fun s file b hf => ⟨b, hf, rfl, rfl⟩) fun region size hl => by
      rw [Memory.length?_congr hd.shape]; exact hl

end Gadget.Engine
