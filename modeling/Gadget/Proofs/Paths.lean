import Gadget.Device.Mount
import Mathlib.Logic.Basic
/-!
# Paths below a root

The bytes of a valid name are one segment and no more, so a path that is joined of a root and a valid name
has the segments of the root and the name behind them, whether the root is empty, ends in a slash or neither.
The root may be any bytes. Both readings of a path follow from its segments: its components
(`Path.components_join`) and the names that a look-up follows (`FileTree.way_join`).
-/
namespace Gadget.Device

variable {c : UInt8} {path name : RawText}

/-! ## Segments -/

theorem segments_ne_nil (path : RawText) : segments path ≠ [] := by
  unfold segments
  split
  · simp
  · split
    · simp
    · split <;> simp

theorem segments_cons_of_ne (hc : c ≠ RawText.slash) {segment : RawText} {rest : List RawText}
    (h : segments path = segment :: rest) : segments (c :: path) = (c :: segment) :: rest := by
  simp [segments, hc, h]

/-- A slash separates what is before it from what is behind it. -/
theorem segments_append_slash (before after : RawText) :
    segments (before ++ RawText.slash :: after) = segments before ++ segments after := by
  induction before with
  | nil => simp [segments]
  | cons c before ih =>
    by_cases hc : c = RawText.slash
    · subst hc
      simp [segments, ih]
    · obtain ⟨segment, rest, hs⟩ := List.exists_cons_of_ne_nil (segments_ne_nil before)
      have hs' : segments (before ++ RawText.slash :: after) = segment :: (rest ++ segments after) := by
        rw [ih, hs, List.cons_append]
      rw [segments_cons_of_ne hc hs, List.cons_append, segments_cons_of_ne hc hs', List.cons_append]

theorem segments_of_not_mem (h : RawText.slash ∉ path) : segments path = [path] := by
  induction path with
  | nil => rfl
  | cons c path ih =>
    rw [List.mem_cons, not_or] at h
    exact segments_cons_of_ne (Ne.symm h.1) (ih h.2)

/-- A name as one segment of a path. -/
structure IsSegment (name : RawText) : Prop where
  ne_nil : name ≠ []
  slash : RawText.slash ∉ name
  nul : RawText.nul ∉ name
  ne_current : name ≠ Path.currentName
  ne_parent : name ≠ Path.parentName

/-! ## Valid names -/

section

variable {name : String}

theorem isValidName_iff : isValidName name ↔
    name ≠ "" ∧ (∀ c ∈ name.toList, c.toNat < 128 ∧ c ≠ '/' ∧ c ≠ '\x00') ∧ name ≠ "." ∧ name ≠ ".." := by
  simp only [isValidName, Bool.and_eq_true, decide_eq_true_eq, List.all_eq_true, and_assoc]

/-- What is wrong with a name that is not valid. -/
theorem not_isValidName_iff : ¬ isValidName name ↔
    name = "" ∨ (∃ c ∈ name.toList, 128 ≤ c.toNat ∨ c = '/' ∨ c = '\x00') ∨ name = "." ∨ name = ".." := by
  rw [isValidName_iff, ← not_iff_not, not_not]
  simp only [not_or, not_exists, not_and, Nat.not_le, ne_eq]

theorem isSegment_of_isValidName (h : isValidName name) : IsSegment (.ofString name) := by
  obtain ⟨hempty, hchars, hdot, hdots⟩ := isValidName_iff.1 h
  have hne : ∀ {other : String}, name ≠ other → RawText.ofString name ≠ RawText.ofString other :=
    fun hn => mt RawText.ofString_inj.1 hn
  exact ⟨hne hempty, fun hm => (hchars _ (RawText.mem_ofString (by decide) hm)).2.1 rfl,
    fun hm => (hchars _ (RawText.mem_ofString (by decide) hm)).2.2 rfl, hne hdot, hne hdots⟩

end

namespace Path

theorem isAbsolute_eq_false (h : IsSegment name) : isAbsolute name = false := by
  rw [isAbsolute, decide_eq_false_iff_not]
  exact fun hhead => h.slash (List.mem_of_mem_head? hhead)

/-- Where a name is put behind a root: at once if the root is empty or ends in a slash, and else behind a
slash. -/
theorem join_cases (h : IsSegment name) (root : RawText) :
    (root = [] ∧ join root name = name) ∨
    (∃ before, root = before ++ [RawText.slash] ∧ join root name = before ++ RawText.slash :: name) ∨
    (root ≠ [] ∧ join root name = root ++ RawText.slash :: name) := by
  simp only [join, isAbsolute_eq_false h, Bool.false_eq_true, if_false]
  by_cases hroot : root = []
  · exact .inl ⟨hroot, by simp [hroot]⟩
  by_cases hlast : root.getLast? = some RawText.slash
  · obtain ⟨before, rfl⟩ := List.getLast?_eq_some_iff.1 hlast
    exact .inr (.inl ⟨before, rfl, by simp⟩)
  · exact .inr (.inr ⟨hroot, by rw [if_neg (by simp [hroot, hlast])]⟩)

/-- A joined path begins with its root. -/
theorem exists_join_eq_append (h : IsSegment name) (root : RawText) :
    ∃ rest, join root name = root ++ rest := by
  simp only [join, isAbsolute_eq_false h, Bool.false_eq_true, if_false]
  split
  · exact ⟨name, rfl⟩
  · exact ⟨RawText.slash :: name, rfl⟩

/-- A joined path ends in no slash. -/
theorem getLast?_join (h : IsSegment name) (root : RawText) :
    (join root name).getLast? ≠ some RawText.slash := by
  obtain ⟨front, hname⟩ : ∃ front, join root name = front ++ name := by
    rcases join_cases h root with ⟨-, hj⟩ | ⟨before, -, hj⟩ | ⟨-, hj⟩
    · exact ⟨[], hj⟩
    · exact ⟨before ++ [RawText.slash], by simp [hj]⟩
    · exact ⟨root ++ [RawText.slash], by simp [hj]⟩
  obtain ⟨c, hlast⟩ := Option.ne_none_iff_exists'.1 (mt List.getLast?_eq_none_iff.1 h.ne_nil)
  rw [hname, List.getLast?_append, hlast]
  exact fun hc => h.slash (List.mem_of_getLast? (hlast.trans hc))

/-- A joined path holds a NUL byte only if its root does. -/
theorem nul_mem_join_iff (h : IsSegment name) (root : RawText) :
    RawText.nul ∈ join root name ↔ RawText.nul ∈ root := by
  have hslash : RawText.nul ≠ RawText.slash := by decide
  rcases join_cases h root with ⟨rfl, hj⟩ | ⟨before, rfl, hj⟩ | ⟨-, hj⟩ <;> simp [hj, h.nul, hslash]

/-- The segments of the root stay in front; an empty one at its end makes room for the name. -/
theorem segments_join (h : IsSegment name) (root : RawText) :
    ∃ front, segments (join root name) = front ++ [name] ∧ (front = [] → root = []) ∧
      (segments root = front ∨ segments root = front ++ [[]]) := by
  have hname := segments_of_not_mem h.slash
  rcases join_cases h root with ⟨rfl, hj⟩ | ⟨before, hb, hj⟩ | ⟨-, hj⟩
  · exact ⟨[], by rw [hj, hname]; rfl, fun _ => rfl, .inr rfl⟩
  · refine ⟨segments before, ?_, fun he => absurd he (segments_ne_nil before), .inr ?_⟩
    · rw [hj, segments_append_slash, hname]
    · rw [hb, segments_append_slash]
      rfl
  · refine ⟨segments root, ?_, fun he => absurd he (segments_ne_nil _), .inl rfl⟩
    rw [hj, segments_append_slash, hname]

theorem isAbsolute_join (h : IsSegment name) (root : RawText) :
    isAbsolute (join root name) = isAbsolute root := by
  rcases join_cases h root with ⟨rfl, hj⟩ | ⟨before, hb, hj⟩ | ⟨hne, hj⟩
  · rw [hj, isAbsolute_eq_false h]
    rfl
  · rw [isAbsolute, isAbsolute, hj, hb]
    cases before <;> rfl
  · obtain ⟨c, rest, rfl⟩ := List.exists_cons_of_ne_nil hne
    rw [isAbsolute, isAbsolute, hj]
    rfl

/-! ## Components -/

/-- The components that segments stand for. -/
def componentsOf (absolute : Bool) : List RawText → List Component
  | [] => []
  | first :: rest => (Component.ofFirst absolute first).toList ++ rest.filterMap Component.ofSegment

theorem components_eq (path : RawText) :
    components path = componentsOf (isAbsolute path) (segments path) := rfl

theorem ofSegment_of_isSegment (h : IsSegment name) : Component.ofSegment name = some (.normal name) := by
  rw [Component.ofSegment, if_neg (by simp [h.ne_nil, h.ne_current]), if_neg h.ne_parent]

/-- What a segment at the end adds, where it does not count as the first one of an absolute path. -/
theorem componentsOf_append {absolute : Bool} {front : List RawText} {segment : RawText}
    (hfirst : front = [] → absolute = false) (hne : segment ≠ currentName) :
    componentsOf absolute (front ++ [segment]) =
      componentsOf absolute front ++ (Component.ofSegment segment).toList := by
  cases front with
  | nil =>
    rw [hfirst rfl]
    simp [componentsOf, Component.ofFirst, hne]
  | cons first rest =>
    simp only [List.cons_append, componentsOf, List.filterMap_append, List.append_assoc]
    rfl

/-- **A joined path is directly below its root**: its components are those of the root and the name. -/
theorem components_join (h : IsSegment name) (root : RawText) :
    components (join root name) = components root ++ [.normal name] := by
  obtain ⟨front, hjoin, hempty, hroot⟩ := segments_join h root
  have hfirst : front = [] → isAbsolute root = false := fun he => by
    rw [hempty he]
    rfl
  have hfront : componentsOf (isAbsolute root) front = components root := by
    rw [components_eq]
    rcases hroot with hroot | hroot <;> rw [hroot]
    rw [componentsOf_append hfirst (by decide)]
    simp [Component.ofSegment]
  rw [components_eq, isAbsolute_join h, hjoin, componentsOf_append hfirst h.ne_current, hfront,
    ofSegment_of_isSegment h]
  rfl

example : components (join (.ofString "/dev//") (.ofString "usb0")) =
    [.root, .normal (.ofString "dev"), .normal (.ofString "usb0")] := by decide

end Path

/-! ## Names to follow -/

namespace FileTree

/-- The names on the way of a path, whatever its end asks for. -/
def way (path : RawText) : List RawText := (segments path).filter (· ≠ [])

theorem steps_eq (path : RawText) :
    steps path = if path.getLast? = some RawText.slash then way path ++ [Path.currentName] else way path :=
  rfl

/-- The way to a joined path leads by its root. -/
theorem way_join (h : IsSegment name) (root : RawText) :
    way (Path.join root name) = way root ++ [name] := by
  obtain ⟨front, hjoin, -, hroot⟩ := Path.segments_join h root
  have hfront : (segments root).filter (· ≠ []) = front.filter (· ≠ []) := by
    rcases hroot with hroot | hroot <;> rw [hroot]
    simp
  rw [way, way, hjoin, List.filter_append, hfront]
  simp [h.ne_nil]

theorem start_join (h : IsSegment name) (root : RawText) (directory : Nat) :
    start (Path.join root name) directory = start root directory := by
  rw [start, start, Path.isAbsolute_join h]

end FileTree

end Gadget.Device
