import Gadget.Event
import Gadget.Machine.Kernel
import Gadget.Memory
/-!
# The machine: `BuildTargetPlatform` and `BuildTargetBindings`

A `Machine` is everything outside the engine: the kernel, the memory, the calls made so far and
the events logged so far. Its operations are the kernel calls as the engine makes them. They add
what the system's calling convention adds (counts that are signed 64 bit numbers, reads that are
complete or fail) and write every call down. Memory is asked for in the same way: a piece that no
machine could hold is refused without a question (`Machine.grants`).
-/
namespace Gadget

/-- A kernel, the memory beside it, and the record of what happened. -/
structure Machine (κ : Type) where
  kernel : κ
  memory : Memory
  /-- The kernel calls made, oldest first. -/
  calls : List Call
  /-- The events logged, oldest first. -/
  events : List Event

namespace Machine

variable {κ : Type}

/-- A machine on which nothing has happened yet. -/
def boot (kernel : κ) : Machine κ := ⟨kernel, .empty, [], []⟩

/-- Logs an event. -/
def log (event : Event) (m : Machine κ) : Machine κ :=
  { m with events := m.events ++ [event] }

/-- Logs several events. -/
def logAll (events : List Event) (m : Machine κ) : Machine κ :=
  { m with events := m.events ++ events }

/-- Writes down a call that left the kernel in the given state. -/
def called (call : Call) (kernel : κ) (m : Machine κ) : Machine κ :=
  { m with kernel, calls := m.calls ++ [call] }

/-! ## Memory -/

/-- Gives regions back. -/
def releaseAll (regions : List Nat) (m : Machine κ) : Machine κ :=
  { m with memory := m.memory.releaseAll regions }

/-- Copies bytes into a region; what does not fit is dropped. -/
def overwrite (region start : Nat) (new : List UInt8) (m : Machine κ) : Machine κ :=
  { m with memory := m.memory.overwrite region start new }

variable [Kernel κ]

/-- Whether `bytes` bytes can be had in one piece. None can always be had, and more than the machine
addresses never; of all else the allocator decides. -/
def grants (purpose : Purpose) (bytes : Nat) (m : Machine κ) : Bool :=
  bytes = 0 || (bytes ≤ Limits.int64 && Kernel.grants ⟨purpose, bytes, m.memory.requests⟩ m.kernel)

/-- Memory for `count` items of `width` bytes in one piece (`try_reserve_exact`). -/
def reserve (purpose : Purpose) (count width : Nat) (m : Machine κ) : Except TransferError Unit :=
  if m.grants purpose (count * width) then .ok () else .error .outOfMemory

/-- A region of zero bytes, if it can be had (`Platform::allocate_region`). -/
def allocate (size : Nat) (m : Machine κ) : Option Region × Machine κ :=
  let (region, memory) := m.memory.allocate size (m.grants .region size)
  (region, { m with memory })

section

variable {purpose : Purpose} {bytes size : Nat} {m : Machine κ}

theorem grants_iff (h : 0 < bytes) : m.grants purpose bytes ↔
    bytes ≤ Limits.int64 ∧ Kernel.grants ⟨purpose, bytes, m.memory.requests⟩ m.kernel := by
  have hne : bytes ≠ 0 := Nat.ne_of_gt h
  simp [grants, hne]

theorem le_of_grants (h : m.grants purpose bytes) : bytes ≤ Limits.int64 := by
  rcases Nat.eq_zero_or_pos bytes with rfl | hpos
  · exact Nat.zero_le _
  · exact ((grants_iff hpos).1 h).1

/-- Memory is granted or has run out. -/
theorem reserve_cases (purpose : Purpose) (count width : Nat) (m : Machine κ) :
    m.reserve purpose count width = .ok () ∨ m.reserve purpose count width = .error .outOfMemory := by
  rw [reserve]
  split
  · exact .inl rfl
  · exact .inr rfl

theorem reserve_eq_ok_iff {count width : Nat} (h : 0 < count * width) :
    m.reserve purpose count width = .ok () ↔ count * width ≤ Limits.int64 ∧
      Kernel.grants ⟨purpose, count * width, m.memory.requests⟩ m.kernel := by
  rw [← grants_iff h, reserve]
  split <;> simp [*]

/-- The machine once a region of zeros has been granted. -/
def granted (size : Nat) (m : Machine κ) : Machine κ :=
  { m with memory := ⟨m.memory.cells ++ [some (List.replicate size 0)], m.memory.requests + 1⟩ }

theorem allocate_of_grants (h : m.grants .region size) :
    m.allocate size = (some ⟨m.memory.cells.length, size⟩, m.granted size) := by
  rw [allocate, h]
  rfl

theorem allocate_of_not_grants (h : ¬ m.grants .region size) :
    m.allocate size = (none, { m with memory := { m.memory with requests := m.memory.requests + 1 } }) := by
  rw [allocate, eq_false_of_ne_true h]
  rfl

end

/-! ## Kernel calls -/

/-- Asks for an I/O context. -/
def setup (maxEvents : UInt32) (m : Machine κ) : Except Errno UInt64 × Machine κ :=
  let (outcome, kernel) := Kernel.setup maxEvents m.kernel
  (outcome, m.called (.setup maxEvents outcome) kernel)

/-- Gives an I/O context back. -/
def destroy (id : UInt64) (m : Machine κ) : Except Errno Unit × Machine κ :=
  let (outcome, kernel) := Kernel.destroy id m.kernel
  (outcome, m.called (.destroy id outcome) kernel)

/-- Submits a batch. One whose length is no signed 64 bit number is refused without a call. -/
def submit (id : UInt64) (batch : List Descriptor) (m : Machine κ) :
    Except Errno Nat × Machine κ :=
  if Limits.int64 < batch.length then (.error .invalid, m)
  else
    let (outcome, kernel) := Kernel.submit id batch m.kernel
    (outcome, m.called (.submit id batch outcome) kernel)

/-- Collects completion records into the front of an array, which keeps its length; entries that the
kernel does not write keep what they held. Counts that are no signed 64 bit numbers are refused
without a call. -/
def getEvents (id : UInt64) (minimum : Nat) (records : List Record) (m : Machine κ) :
    Except Errno Nat × List Record × Machine κ :=
  if Limits.int64 < minimum ∨ Limits.int64 < records.length then (.error .invalid, records, m)
  else
    match Kernel.getEvents id minimum records.length m.kernel with
    | (.error e, kernel) =>
      (.error e, records, m.called (.getEvents id minimum records.length (.error e)) kernel)
    | (.ok (count, written), kernel) =>
      (.ok count, written.take records.length ++ records.drop written.length,
        m.called (.getEvents id minimum records.length (.ok count)) kernel)

/-- Opens an eventfd. -/
def eventfd (m : Machine κ) : Except Errno Int32 × Machine κ :=
  let (outcome, kernel) := Kernel.eventfd m.kernel
  (outcome, m.called (.eventfd outcome) kernel)

/-- Reads the counter of an eventfd. A read of any other length than eight bytes is an
input/output error. -/
def readCounter (file : Int32) (m : Machine κ) : Except Errno UInt64 × Machine κ :=
  match Kernel.read file m.kernel with
  | (.error e, kernel) => (.error e, m.called (.read file (.error e)) kernel)
  | (.ok (length, counter), kernel) =>
    (if length = 8 then .ok counter else .error .inputOutput,
      m.called (.read file (.ok length)) kernel)

/-- Closes a file. -/
def close (file : Int32) (m : Machine κ) : Except Errno Unit × Machine κ :=
  let (outcome, kernel) := Kernel.close file m.kernel
  (outcome, m.called (.close file outcome) kernel)

/-- Mounts a file system. -/
def mount (source target filesystem : RawText) (flags : UInt64) (data : Option RawText) (m : Machine κ) :
    Except Errno Unit × Machine κ :=
  let (outcome, kernel) := Kernel.mount source target filesystem flags data m.kernel
  (outcome, m.called (.mount source target filesystem flags data outcome) kernel)

end Machine

end Gadget
