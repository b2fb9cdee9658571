import Gadget.Session.Device
import Gadget.Simulation.Kernel
import Mathlib.Data.List.Basic
/-!
# What a scan of a directory finds

A scan passes over every entry that does not report the number looked for, and leaves a complaint about
those that cannot be inspected (`scan_append`); it ends at the first that does. So the outcome depends on
the listing up to that entry and on nothing behind it (`findListed_first_match`).

The number that an entry reports says nothing about what the entry is. A scan finds device nodes only as
long as nothing else reports the number (`found_is_device_node`). In a file tree that is so for every number
but 0:0, which directories and files report: `zero_number_finds_directory` is the scan that returns one.
-/
namespace Gadget.Device

variable {decode : UInt64 → DeviceNumber} {directory : RawText} {number : DeviceNumber}
  {before after rest entries : List Listed} {name : RawText} {status : Status} {l : Listed}

/-! ## Entries -/

theorem FileKind.isDevice_iff {kind : FileKind} :
    kind.isDevice ↔ kind = .characterDevice ∨ kind = .blockDevice := by
  cases kind <;> simp [isDevice]

namespace Listed

/-- Whether an entry can be inspected and reports a number. -/
def reports (decode : UInt64 → DeviceNumber) (number : DeviceNumber) : Listed → Bool
  | .entry _ (.ok status) => decode status.device = number
  | .entry _ (.error _) | .unreadable _ => false

/-- Whether an entry leads to a device node of a number. -/
def isNode (decode : UInt64 → DeviceNumber) (number : DeviceNumber) : Listed → Bool
  | .entry _ (.ok status) => status.kind.isDevice && decode status.device = number
  | .entry _ (.error _) | .unreadable _ => false

/-- The event that says why an entry cannot be inspected. -/
def complaint? (directory : RawText) : Listed → Option Event
  | .unreadable e => some (.unreadableEntry e)
  | .entry name (.error e) => some (.skippedEntry (Path.join directory name) e)
  | .entry _ (.ok _) => none

theorem reports_iff : l.reports decode number ↔
    ∃ name status, l = .entry name (.ok status) ∧ decode status.device = number := by
  cases l with
  | unreadable e => simp [reports]
  | entry name result => cases result <;> simp [reports, and_assoc]

theorem isNode_iff : l.isNode decode number ↔ ∃ name status, l = .entry name (.ok status) ∧
    status.kind.isDevice ∧ decode status.device = number := by
  cases l with
  | unreadable e => simp [isNode]
  | entry name result => cases result <;> simp [isNode, and_assoc]

/-- Exactly the entries that can be inspected are no reason to complain. -/
theorem complaint?_eq_none_iff :
    l.complaint? directory = none ↔ ∃ name status, l = .entry name (.ok status) := by
  cases l with
  | unreadable e => simp [complaint?]
  | entry name result => cases result <;> simp [complaint?]

theorem level_of_complaint? {event : Event} (h : l.complaint? directory = some event) :
    event.level = .trace := by
  cases l with
  | unreadable e =>
    cases h
    rfl
  | entry name result =>
    cases result <;> cases h
    rfl

end Listed

/-! ## Scans -/

/-- An entry that does not report the number is passed over. -/
theorem scan_cons_of_not_reports (h : ¬ l.reports decode number) (rest : List Listed) :
    scan decode directory number (l :: rest) =
      ((scan decode directory number rest).1,
        (l.complaint? directory).toList ++ (scan decode directory number rest).2) := by
  cases l with
  | unreadable e => rfl
  | entry name result =>
    cases result with
    | error e => rfl
    | ok status =>
      have hn : decode status.device ≠ number := by simpa [Listed.reports] using h
      rw [scan, if_neg hn]
      rfl

/-- At an entry that reports the number the scan ends. -/
theorem scan_cons_of_reports (h : decode status.device = number) (after : List Listed) :
    scan decode directory number (.entry name (.ok status) :: after) =
      (some (Path.join directory name),
        [.foundNode number.major number.minor (Path.join directory name)]) := by
  rw [scan, if_pos h]

/-- Entries that do not report the number leave only their complaints. -/
theorem scan_append (h : ∀ l ∈ before, ¬ l.reports decode number) (rest : List Listed) :
    scan decode directory number (before ++ rest) =
      ((scan decode directory number rest).1,
        before.filterMap (·.complaint? directory) ++ (scan decode directory number rest).2) := by
  induction before with
  | nil => rfl
  | cons l before ih =>
    obtain ⟨hl, hbefore⟩ := List.forall_mem_cons.1 h
    rw [List.cons_append, scan_cons_of_not_reports hl, ih hbefore, List.filterMap_cons]
    cases l.complaint? directory <;> rfl

theorem scan_of_first_match (h : ∀ l ∈ before, ¬ l.reports decode number)
    (hs : decode status.device = number) (after : List Listed) :
    scan decode directory number (before ++ .entry name (.ok status) :: after) =
      (some (Path.join directory name), before.filterMap (·.complaint? directory) ++
        [.foundNode number.major number.minor (Path.join directory name)]) := by
  rw [scan_append h, scan_cons_of_reports hs]

theorem scan_of_no_match (h : ∀ l ∈ entries, ¬ l.reports decode number) :
    scan decode directory number entries = (none, entries.filterMap (·.complaint? directory)) := by
  rw [← List.append_nil entries, scan_append h, scan, List.append_nil, List.append_nil]

/-- Nothing in a listing reports the number, or something does first. -/
theorem no_match_or_first_match (decode : UInt64 → DeviceNumber) (number : DeviceNumber)
    (entries : List Listed) :
    (∀ l ∈ entries, ¬ l.reports decode number) ∨
      ∃ before name status after, entries = before ++ .entry name (.ok status) :: after ∧
        (∀ l ∈ before, ¬ l.reports decode number) ∧ decode status.device = number := by
  cases hfind : entries.find? (·.reports decode number) with
  | none => exact .inl (List.find?_eq_none.1 hfind)
  | some l =>
    obtain ⟨hl, before, after, rfl, hbefore⟩ := List.find?_eq_some_iff_append.1 hfind
    obtain ⟨name, status, rfl, hs⟩ := Listed.reports_iff.1 hl
    exact .inr ⟨before, name, status, after, rfl, by simpa using hbefore, hs⟩

/-- Behind an entry that reports the number, a listing may go on in any way. -/
theorem scan_behind_match (hs : decode status.device = number) (before after after' : List Listed) :
    scan decode directory number (before ++ .entry name (.ok status) :: after) =
      scan decode directory number (before ++ .entry name (.ok status) :: after') := by
  rcases no_match_or_first_match decode number before with
    hbefore | ⟨front, first, status', back, rfl, hfront, hs'⟩
  · rw [scan_of_first_match hbefore hs, scan_of_first_match hbefore hs]
  · simp only [List.append_assoc, List.cons_append]
    rw [scan_of_first_match hfront hs', scan_of_first_match hfront hs']

/-! ## Outcomes -/

section

variable {κ : Type} {m : Machine κ}

theorem findListed_of_first_match (h : ∀ l ∈ before, ¬ l.reports decode number)
    (hs : decode status.device = number) (after : List Listed) (m : Machine κ) :
    findListed decode directory number (.ok (before ++ .entry name (.ok status) :: after)) m =
      (.ok (Path.join directory name), m.logAll (before.filterMap (·.complaint? directory) ++
        [.foundNode number.major number.minor (Path.join directory name)])) := by
  simp only [findListed, scan_of_first_match h hs]

theorem findListed_of_no_match (h : ∀ l ∈ entries, ¬ l.reports decode number) (m : Machine κ) :
    findListed decode directory number (.ok entries) m =
      (.error (.notFound number.major number.minor),
        m.logAll (entries.filterMap (·.complaint? directory))) := by
  simp only [findListed, scan_of_no_match h]

/-- The scan of a listing ends in one of three ways. -/
theorem findListed_cases (decode : UInt64 → DeviceNumber) (directory : RawText) (number : DeviceNumber)
    (listed : Except SystemError (List Listed)) (m : Machine κ) :
    (∃ e, listed = .error e ∧ findListed decode directory number listed m = (.error (.system e), m)) ∨
    (∃ entries, listed = .ok entries ∧ (∀ l ∈ entries, ¬ l.reports decode number) ∧
      (findListed decode directory number listed m).1 = .error (.notFound number.major number.minor)) ∨
    (∃ before name status after, listed = .ok (before ++ .entry name (.ok status) :: after) ∧
      (∀ l ∈ before, ¬ l.reports decode number) ∧ decode status.device = number ∧
      (findListed decode directory number listed m).1 = .ok (Path.join directory name)) := by
  cases listed with
  | error e => exact .inl ⟨e, rfl, rfl⟩
  | ok entries =>
    right
    rcases no_match_or_first_match decode number entries with
      hnone | ⟨before, name, status, after, rfl, hbefore, hs⟩
    · exact .inl ⟨entries, rfl, hnone, by rw [findListed_of_no_match hnone]⟩
    · exact .inr ⟨before, name, status, after, rfl, hbefore, hs,
        by rw [findListed_of_first_match hbefore hs]⟩

theorem findListed_eq_ok_iff {listed : Except SystemError (List Listed)} {path : RawText} :
    (findListed decode directory number listed m).1 = .ok path ↔
      ∃ before name status after, listed = .ok (before ++ .entry name (.ok status) :: after) ∧
        (∀ l ∈ before, ¬ l.reports decode number) ∧ decode status.device = number ∧
        path = Path.join directory name := by
  constructor
  · intro h
    rcases findListed_cases decode directory number listed m with
      ⟨e, -, he⟩ | ⟨entries, -, -, he⟩ | ⟨before, name, status, after, hl, hbefore, hs, he⟩ <;>
      rw [he] at h <;> cases h
    exact ⟨before, name, status, after, hl, hbefore, hs, rfl⟩
  · rintro ⟨before, name, status, after, rfl, hbefore, hs, rfl⟩
    rw [findListed_of_first_match hbefore hs]

theorem findListed_eq_notFound_iff {listed : Except SystemError (List Listed)} :
    (findListed decode directory number listed m).1 = .error (.notFound number.major number.minor) ↔
      ∃ entries, listed = .ok entries ∧ ∀ l ∈ entries, ¬ l.reports decode number := by
  constructor
  · intro h
    rcases findListed_cases decode directory number listed m with
      ⟨e, -, he⟩ | ⟨entries, hl, hnone, -⟩ | ⟨before, name, status, after, -, -, -, he⟩
    · rw [he] at h
      cases h
    · exact ⟨entries, hl, hnone⟩
    · rw [he] at h
      cases h
  · rintro ⟨entries, rfl, hnone⟩
    rw [findListed_of_no_match hnone]

theorem findListed_eq_system_iff {listed : Except SystemError (List Listed)} {e : SystemError} :
    (findListed decode directory number listed m).1 = .error (.system e) ↔ listed = .error e := by
  constructor
  · intro h
    rcases findListed_cases decode directory number listed m with
      ⟨e', hl, he⟩ | ⟨entries, -, -, he⟩ | ⟨before, name, status, after, -, -, -, he⟩ <;>
      rw [he] at h <;> cases h
    exact hl
  · rintro rfl
    rfl

/-- **A scan finds the first entry that reports the number**, whatever the listing holds and however the
system packs numbers into words. It fails to find the number exactly if the directory opens and no entry that
can be inspected reports it, and it fails with the system's error exactly if the directory does not open.
Each entry before the match that cannot be inspected leaves one complaint, in order and at the lowest level,
and nothing else; what is listed behind the match changes neither the result nor the events. -/
theorem findListed_first_match (decode : UInt64 → DeviceNumber) (directory : RawText)
    (number : DeviceNumber) (listed : Except SystemError (List Listed)) (m : Machine κ) :
    let found := findListed decode directory number listed m
    -- the result
    ((∀ path, found.1 = .ok path ↔
        ∃ before name status after, listed = .ok (before ++ .entry name (.ok status) :: after) ∧
          (∀ l ∈ before, ¬ l.reports decode number) ∧ decode status.device = number ∧
          path = Path.join directory name) ∧
      (found.1 = .error (.notFound number.major number.minor) ↔
        ∃ entries, listed = .ok entries ∧ ∀ l ∈ entries, ¬ l.reports decode number) ∧
      (∀ e, found.1 = .error (.system e) ↔ listed = .error e) ∧
      (∀ errno, listed = .error (.os errno) →
        ∃ e, found.1 = .error e ∧ e.status = -errno.code)) ∧
    -- the events
    ((∀ e, listed = .error e → found.2 = m) ∧
      (∀ entries, listed = .ok entries → (∀ l ∈ entries, ¬ l.reports decode number) →
        found.2 = { m with events := m.events ++ entries.filterMap (·.complaint? directory) }) ∧
      (∀ before name status after, listed = .ok (before ++ .entry name (.ok status) :: after) →
        (∀ l ∈ before, ¬ l.reports decode number) → decode status.device = number →
        found.2 = { m with events := m.events ++ (before.filterMap (·.complaint? directory) ++
          [.foundNode number.major number.minor (Path.join directory name)]) }) ∧
      ∀ l : Listed,
        (l.complaint? directory = none ↔ ∃ name status, l = .entry name (.ok status)) ∧
        ∀ event, l.complaint? directory = some event → event.level = .trace) ∧
    -- behind the match
    ∀ before name status after after', decode status.device = number →
      findListed decode directory number (.ok (before ++ .entry name (.ok status) :: after)) m =
        findListed decode directory number (.ok (before ++ .entry name (.ok status) :: after')) m := by
  refine ⟨⟨fun path => findListed_eq_ok_iff, findListed_eq_notFound_iff,
    fun e => findListed_eq_system_iff, ?_⟩, ⟨?_, ?_, ?_, ?_⟩, ?_⟩
  · rintro errno rfl
    exact ⟨.system (.os errno), rfl, rfl⟩
  · rintro e rfl
    rfl
  · rintro entries rfl hnone
    rw [findListed_of_no_match hnone]
    rfl
  · rintro before name status after rfl hbefore hs
    rw [findListed_of_first_match hbefore hs]
    rfl
  · exact fun l => ⟨Listed.complaint?_eq_none_iff, fun event => Listed.level_of_complaint?⟩
  · intro before name status after after' hs
    simp only [findListed, scan_behind_match hs before after after']

end

/-! ## Device nodes -/

/-- Nothing but device nodes reports the number. -/
def OnlyNodesReport (decode : UInt64 → DeviceNumber) (number : DeviceNumber) (entries : List Listed) : Prop :=
  ∀ name status, .entry name (.ok status) ∈ entries → ¬ status.kind.isDevice → decode status.device ≠ number

namespace OnlyNodesReport

variable {κ : Type} {m : Machine κ}

theorem isNode_of_reports (h : OnlyNodesReport decode number entries) (hl : l ∈ entries)
    (hr : l.reports decode number) : l.isNode decode number := by
  obtain ⟨name, status, rfl, hs⟩ := Listed.reports_iff.1 hr
  by_cases hkind : status.kind.isDevice
  · exact Listed.isNode_iff.2 ⟨name, status, rfl, hkind, hs⟩
  · exact absurd hs (h name status hl hkind)

/-- What is found then is a device node of the number. -/
theorem isNode_of_found (h : OnlyNodesReport decode number entries) {path : RawText}
    (hfound : (findListed decode directory number (.ok entries) m).1 = .ok path) :
    ∃ name status, .entry name (.ok status) ∈ entries ∧ path = Path.join directory name ∧
      status.kind.isDevice ∧ decode status.device = number := by
  obtain ⟨before, name, status, after, hentries, -, hs, rfl⟩ := findListed_eq_ok_iff.1 hfound
  cases hentries
  have hmem : .entry name (.ok status) ∈ before ++ .entry name (.ok status) :: after := by simp
  exact ⟨name, status, hmem, rfl, Decidable.byContradiction fun hkind => h name status hmem hkind hs, hs⟩

/-- Nothing is found then exactly if there is no device node of the number. -/
theorem notFound_iff (h : OnlyNodesReport decode number entries) :
    (findListed decode directory number (.ok entries) m).1 = .error (.notFound number.major number.minor) ↔
      ∀ l ∈ entries, ¬ l.isNode decode number := by
  rw [findListed_eq_notFound_iff]
  constructor
  · rintro ⟨entries, hentries, hnone⟩ l hl hnode
    cases hentries
    obtain ⟨name, status, hentry, -, hs⟩ := Listed.isNode_iff.1 hnode
    exact hnone l hl (Listed.reports_iff.2 ⟨name, status, hentry, hs⟩)
  · intro hnone
    exact ⟨entries, rfl, fun l hl hr => hnone l hl (h.isNode_of_reports hl hr)⟩

end OnlyNodesReport

/-! ## In a file tree -/

/-- A node of a tree is a device node, or it reports 0:0. -/
theorem Node.status_cases (node : Node) :
    (∃ number, node = .device number ∧ node.status.kind.isDevice ∧ .ofWord node.status.device = number) ∨
    ((∀ number, node ≠ .device number) ∧ node.status.kind.isDevice = false ∧
      DeviceNumber.ofWord node.status.device = ⟨0, 0⟩) := by
  cases node with
  | device number => exact .inl ⟨number, rfl, rfl, DeviceNumber.ofWord_toWord number⟩
  | directory parent mode entries => exact .inr ⟨by simp, rfl, DeviceNumber.ofWord_zero⟩
  | file bytes => exact .inr ⟨by simp, rfl, DeviceNumber.ofWord_zero⟩
  | link target => exact .inr ⟨by simp, rfl, DeviceNumber.ofWord_zero⟩

section

variable {files : FileTree}

theorem listing_eq_ok_iff : listing directory files = .ok entries ↔
    ∃ names, files.names directory = .ok names ∧ entries = names.map fun name =>
      .entry name ((files.node? (Path.join directory name)).map Node.status) := by
  rw [listing]
  cases files.names directory <;> simp [Except.map, eq_comm]

/-- An entry of a listing that can be inspected is a node of the tree. -/
theorem node?_of_mem_listing (h : listing directory files = .ok entries)
    (hl : .entry name (.ok status) ∈ entries) :
    ∃ node, files.node? (Path.join directory name) = .ok node ∧ status = node.status := by
  obtain ⟨names, -, rfl⟩ := listing_eq_ok_iff.1 h
  obtain ⟨name', -, he⟩ := List.mem_map.1 hl
  simp only [Listed.entry.injEq] at he
  obtain ⟨rfl, hstatus⟩ := he
  cases hnode : files.node? (Path.join directory name') with
  | error e =>
    rw [hnode] at hstatus
    cases hstatus
  | ok node =>
    rw [hnode] at hstatus
    cases hstatus
    exact ⟨node, rfl, rfl⟩

/-- In a file tree nothing but device nodes reports any number but 0:0. -/
theorem onlyNodesReport_listing (h : listing directory files = .ok entries) (hn : number ≠ ⟨0, 0⟩) :
    OnlyNodesReport .ofWord number entries := by
  intro name status hl hkind
  obtain ⟨node, -, rfl⟩ := node?_of_mem_listing h hl
  rcases node.status_cases with ⟨number', -, hdevice, -⟩ | ⟨-, -, hzero⟩
  · exact absurd hdevice hkind
  · rw [hzero]
    exact hn.symm

/-- An entry of a tree leads to a device node exactly if one is at its path. -/
theorem isNode_listed_iff {path : RawText} :
    (Listed.entry name ((files.node? path).map Node.status)).isNode .ofWord number ↔
      files.node? path = .ok (.device number) := by
  cases files.node? path with
  | error e => simp [Except.map, Listed.isNode]
  | ok node =>
    rcases node.status_cases with ⟨number', rfl, hkind, hs⟩ | ⟨hno, hkind, -⟩
    · simp [Except.map, Listed.isNode, hkind, hs]
    · simp [Except.map, Listed.isNode, hkind, hno]

variable {κ : Type} {m : Machine κ}

/-- What is found is a device node of the number, or the number is 0:0 and it is no device node. -/
theorem node?_of_findNode {path : RawText} (h : (findNode directory number files m).1 = .ok path) :
    ∃ node, files.node? path = .ok node ∧
      (node = .device number ∨ number = ⟨0, 0⟩ ∧ ∀ other, node ≠ .device other) := by
  obtain ⟨before, name, status, after, hl, -, hs, rfl⟩ := findListed_eq_ok_iff.1 h
  obtain ⟨node, hnode, rfl⟩ := node?_of_mem_listing hl (List.mem_append_right before List.mem_cons_self)
  refine ⟨node, hnode, ?_⟩
  rcases node.status_cases with ⟨other, rfl, -, hs'⟩ | ⟨hno, -, hzero⟩
  · exact .inl (by rw [← hs', hs])
  · exact .inr ⟨by rw [← hs, hzero], hno⟩

/-- A number but 0:0 is not found exactly if the directory opens and has no device node of the number. -/
theorem findNode_eq_notFound_iff (hn : number ≠ ⟨0, 0⟩) :
    (findNode directory number files m).1 = .error (.notFound number.major number.minor) ↔
      ∃ names, files.names directory = .ok names ∧
        ∀ name ∈ names, files.node? (Path.join directory name) ≠ .ok (.device number) := by
  rw [findNode]
  constructor
  · intro h
    obtain ⟨entries, hl, -⟩ := findListed_eq_notFound_iff.1 h
    rw [hl, (onlyNodesReport_listing hl hn).notFound_iff] at h
    obtain ⟨names, hnames, rfl⟩ := listing_eq_ok_iff.1 hl
    refine ⟨names, hnames, fun name hname hnode => ?_⟩
    exact h _ (List.mem_map_of_mem hname) (isNode_listed_iff.2 hnode)
  · rintro ⟨names, hnames, hnone⟩
    have hl := listing_eq_ok_iff.2 ⟨names, hnames, rfl⟩
    rw [hl, (onlyNodesReport_listing hl hn).notFound_iff]
    intro l hmem
    obtain ⟨name, hname, rfl⟩ := List.mem_map.1 hmem
    rw [isNode_listed_iff]
    exact hnone name hname

/-- **A scan finds device nodes only, as long as nothing else reports the number**: then the path that it
returns leads to a character or a block device of the number, and nothing is found exactly if no entry leads
to one. In a file tree this is so for every number but 0:0, whatever directories, files, links and entries
that lead nowhere are listed with the nodes; under 0:0 the path may lead to something that is no device. -/
theorem found_is_device_node (decode : UInt64 → DeviceNumber) (directory : RawText) (number : DeviceNumber)
    (m : Machine κ) :
    (∀ entries, OnlyNodesReport decode number entries →
      let found := findListed decode directory number (.ok entries) m
      (∀ path, found.1 = .ok path → ∃ name status, .entry name (.ok status) ∈ entries ∧
        path = Path.join directory name ∧
        (status.kind = .characterDevice ∨ status.kind = .blockDevice) ∧ decode status.device = number) ∧
      (found.1 = .error (.notFound number.major number.minor) ↔
        ∀ name status, .entry name (.ok status) ∈ entries →
          ¬ ((status.kind = .characterDevice ∨ status.kind = .blockDevice) ∧
            decode status.device = number))) ∧
    ∀ files : FileTree,
      let found := findNode directory number files m
      (∀ path, found.1 = .ok path → ∃ node, files.node? path = .ok node ∧
        (node = .device number ∨ number = ⟨0, 0⟩ ∧ ∀ other, node ≠ .device other)) ∧
      (number ≠ ⟨0, 0⟩ → (found.1 = .error (.notFound number.major number.minor) ↔
        ∃ names, files.names directory = .ok names ∧
          ∀ name ∈ names, files.node? (Path.join directory name) ≠ .ok (.device number))) := by
  refine ⟨fun entries h => ⟨fun path hfound => ?_, ?_⟩,
    fun files => ⟨fun path => node?_of_findNode, findNode_eq_notFound_iff⟩⟩
  · obtain ⟨name, status, hmem, hpath, hkind, hs⟩ := h.isNode_of_found hfound
    exact ⟨name, status, hmem, hpath, FileKind.isDevice_iff.1 hkind, hs⟩
  · rw [h.notFound_iff]
    constructor
    · rintro hnone name status hmem ⟨hkind, hs⟩
      exact hnone _ hmem (Listed.isNode_iff.2 ⟨name, status, rfl, FileKind.isDevice_iff.2 hkind, hs⟩)
    · intro hnone l hmem hnode
      obtain ⟨name, status, rfl, hkind, hs⟩ := Listed.isNode_iff.1 hnode
      exact hnone name status hmem ⟨FileKind.isDevice_iff.1 hkind, hs⟩

/-- Behind a directory and an entry that leads nowhere, a link to a device node is found, and so is the node
itself in its own directory. -/
theorem null_found_behind_others : ∃ (entries : List Listed) (m : Machine SimulatedKernel)
    (name : RawText) (status : Status),
    let directory : RawText := .ofString "/run/"
    let path : RawText := .ofString "/run/sink"
    let null : RawText := .ofString "/dev/null"
    OnlyNodesReport .ofWord ⟨1, 3⟩ entries ∧
      (findListed .ofWord directory ⟨1, 3⟩ (.ok entries) m).1 = .ok path ∧
      .entry name (.ok status) ∈ entries ∧ path = Path.join directory name ∧
      (status.kind = .characterDevice ∨ status.kind = .blockDevice) ∧
      .ofWord status.device = (⟨1, 3⟩ : DeviceNumber) ∧
      (findNode (.ofString "/dev") ⟨1, 3⟩ .standard m).1 = .ok null ∧
      FileTree.standard.node? null = .ok (.device ⟨1, 3⟩) := by
  let entries : List Listed :=
    [.entry (.ofString "usb0") (.ok ⟨.directory, 0⟩), .entry (.ofString "gone") (.error (.os .noEntry)),
      .entry (.ofString "sink") (.ok ⟨.characterDevice, 0x103⟩)]
  let m : Machine SimulatedKernel := .boot .fresh
  have honly : OnlyNodesReport .ofWord ⟨1, 3⟩ entries := by
    intro name status hl hkind
    simp only [entries, List.mem_cons, Listed.entry.injEq, Except.ok.injEq, List.not_mem_nil, or_false,
      reduceCtorEq, and_false, false_or] at hl
    rcases hl with ⟨-, rfl⟩ | ⟨-, rfl⟩
    · decide
    · exact absurd rfl hkind
  have hsink : (findListed .ofWord (.ofString "/run/") ⟨1, 3⟩ (.ok entries) m).1 =
      .ok (.ofString "/run/sink") := by decide +kernel
  have hnull : (findNode (.ofString "/dev") ⟨1, 3⟩ .standard m).1 = .ok (.ofString "/dev/null") := by
    decide +kernel
  obtain ⟨name, status, hmem, hpath, hkind, hs⟩ :=
    ((found_is_device_node .ofWord (.ofString "/run/") ⟨1, 3⟩ m).1 entries honly).1 _ hsink
  obtain ⟨node, hnode, hdevice⟩ :=
    ((found_is_device_node .ofWord (.ofString "/dev") ⟨1, 3⟩ m).2 .standard).1 _ hnull
  obtain rfl := hdevice.resolve_right fun hzero => absurd hzero.1 (by decide)
  exact ⟨entries, m, name, status, honly, hsink, hmem, hpath, hkind, hs, hnull, hnode⟩

/-- Under 0:0 a directory is found: the one that mounting an instance has just made. -/
theorem zero_number_finds_directory :
    let here : RawText := .ofString "."
    let path : RawText := .ofString "./usb0"
    let s := ((DeviceSession.boot SimulatedKernel.fresh).perform (.mountBelow here "usb0")).2
    (findNode here ⟨0, 0⟩ s.files s.machine).1 = .ok path ∧
      s.files.names here = .ok [.ofString "usb0"] ∧ s.files.node? path = .ok (.directory 2 0o750 []) := by
  decide +kernel

end

end Gadget.Device
