import Gadget.Device.Error
import Gadget.Device.FileTree
import Gadget.Machine.Basic
/-!
# Finding a device node: `resolve_device_path_in`

A scan goes through the entries of a directory in the order in which the system lists them, inspects
each with links followed, and stops at the first whose device number is the one looked for. Entries
that cannot be inspected are reported and passed over. The number is all that counts: the system
reports one for everything, which in a file tree is 0:0 for what is no device node.
-/
namespace Gadget.Device

/-! ## What the system says of an entry -/

/-- What something in a file system is. -/
inductive FileKind
  | directory
  | regular
  | link
  | characterDevice
  | blockDevice
  | pipe
  | socket
deriving DecidableEq, Repr

/-- Device nodes are those of character and of block devices. -/
def FileKind.isDevice : FileKind → Bool
  | characterDevice | blockDevice => true
  | directory | regular | link | pipe | socket => false

/-- What the system says of something in a file system (`Metadata`). -/
structure Status where
  kind : FileKind
  /-- A device number, packed into a word. Everything has one; only that of a device node means
  something. -/
  device : UInt64
deriving DecidableEq, Repr

/-- An entry of a directory (`DirEntry`), as far as the system lets it be inspected. -/
inductive Listed
  /-- The entry itself cannot be read. -/
  | unreadable (e : SystemError)
  /-- The entry of this name, and what the system says of it with links followed. -/
  | entry (name : RawText) (status : Except SystemError Status)
deriving Repr

/-! ## Scanning -/

/-- The path of the first entry of a number, and the events on the way to it: the loop of
`resolve_device_path_in`. How the system packs a number into a word is undone by `decode`. -/
def scan (decode : UInt64 → DeviceNumber) (directory : RawText) (number : DeviceNumber) :
    List Listed → Option RawText × List Event
  | [] => (none, [])
  | .unreadable e :: rest =>
    let (found, events) := scan decode directory number rest
    (found, .unreadableEntry e :: events)
  | .entry name (.error e) :: rest =>
    let (found, events) := scan decode directory number rest
    (found, .skippedEntry (Path.join directory name) e :: events)
  | .entry name (.ok status) :: rest =>
    if decode status.device = number then
      let path := Path.join directory name
      (some path, [.foundNode number.major number.minor path])
    else scan decode directory number rest

variable {κ : Type}

/-- The outcome of a scan of a listing, if the directory could be opened at all. -/
def findListed (decode : UInt64 → DeviceNumber) (directory : RawText) (number : DeviceNumber)
    (listed : Except SystemError (List Listed)) (m : Machine κ) :
    Except DeviceError RawText × Machine κ :=
  match listed with
  | .error e => (.error (.system e), m)
  | .ok entries =>
    let (found, events) := scan decode directory number entries
    let m := m.logAll events
    match found with
    | some path => (.ok path, m)
    | none => (.error (.notFound number.major number.minor), m)

/-! ## In a file tree -/

/-- What the system says of a node. -/
def Node.status : Node → Status
  | .directory _ _ _ => ⟨.directory, 0⟩
  | .file _ => ⟨.regular, 0⟩
  | .link _ => ⟨.link, 0⟩
  | .device number => ⟨.characterDevice, number.toWord⟩

/-- The listing of a directory. -/
def listing (directory : RawText) (files : FileTree) : Except SystemError (List Listed) :=
  (files.names directory).map (·.map fun name =>
    .entry name ((files.node? (Path.join directory name)).map Node.status))

/-- The path of the device node of a number in a directory (`resolve_device_path_in`; `resolve_device_path`
in the directory of device nodes). -/
def findNode (directory : RawText) (number : DeviceNumber) (files : FileTree) (m : Machine κ) :
    Except DeviceError RawText × Machine κ :=
  findListed .ofWord directory number (listing directory files) m

end Gadget.Device
