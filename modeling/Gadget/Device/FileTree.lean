import Gadget.Device.Path
import Gadget.Transfer.Direction
import Gadget.Memory
import Gadget.SystemError
/-!
# File trees: what `DirBuilder`, `OpenOptions`, `metadata` and `read_dir` meet

Directories, files, symbolic links and device nodes, as far as device operations look at them.
Nodes are numbered; a directory maps names to the numbers of its entries, in the order of their
creation. Looking up a path follows the system's rules: a path ends at the first entry that is
missing, every step needs a directory to be taken in, and so many links may be followed and no
more.
-/
namespace Gadget.Device

/-- The number of a device. -/
structure DeviceNumber where
  major : UInt32
  minor : UInt32
deriving DecidableEq, Repr

namespace DeviceNumber

/-- The number packed into a word. From the lowest bit up these are 8 bits of the minor number, 12 of
the major, the other 24 of the minor and the other 20 of the major. -/
def toWord (n : DeviceNumber) : UInt64 :=
  .ofNat (n.minor.toNat % 0x100 + n.major.toNat % 0x1000 * 0x100 + n.minor.toNat / 0x100 * 0x100000 +
    n.major.toNat / 0x1000 * 0x100000000000)

/-- The number that is packed into a word. -/
def ofWord (word : UInt64) : DeviceNumber where
  major := .ofNat (word.toNat / 0x100 % 0x1000 + word.toNat / 0x100000000000 * 0x1000)
  minor := .ofNat (word.toNat % 0x100 + word.toNat / 0x100000 % 0x1000000 * 0x100)

theorem toNat_toWord (n : DeviceNumber) :
    n.toWord.toNat = n.minor.toNat % 0x100 + n.major.toNat % 0x1000 * 0x100 +
      n.minor.toNat / 0x100 * 0x100000 + n.major.toNat / 0x1000 * 0x100000000000 := by
  have hmajor := n.major.toNat_lt_size
  have hminor := n.minor.toNat_lt_size
  rw [toWord, UInt64.toNat_ofNat_of_lt']
  simp only [UInt32.size, UInt64.size] at *
  omega

@[simp] theorem ofWord_toWord (n : DeviceNumber) : ofWord n.toWord = n := by
  have hlt := n.minor.toNat_lt_size
  simp only [UInt32.size] at hlt
  have hmajor : n.toWord.toNat / 0x100 % 0x1000 + n.toWord.toNat / 0x100000000000 * 0x1000 =
      n.major.toNat := by
    rw [toNat_toWord]; omega
  have hminor : n.toWord.toNat % 0x100 + n.toWord.toNat / 0x100000 % 0x1000000 * 0x100 =
      n.minor.toNat := by
    rw [toNat_toWord]; omega
  rw [ofWord, hmajor, hminor, UInt32.ofNat_toNat, UInt32.ofNat_toNat]

@[simp] theorem ofWord_zero : ofWord 0 = ⟨0, 0⟩ := by decide

end DeviceNumber

/-- A node of a file tree. -/
inductive Node
  | directory (parent mode : Nat) (entries : List (RawText × Nat))
  | file (bytes : List UInt8)
  | link (target : RawText)
  | device (number : DeviceNumber)
deriving DecidableEq, Repr

/-- A directory with one more entry; nothing else has entries. -/
def Node.addEntry (name : RawText) (node : Nat) : Node → Node
  | .directory parent mode entries => .directory parent mode (entries ++ [(name, node)])
  | other => other

/-- A tree of files with a working directory. -/
structure FileTree where
  nodes : List Node
  /-- The node of the working directory; node zero is the root directory. -/
  working : Nat
  /-- The permissions that new directories do not get. -/
  umask : Nat
deriving DecidableEq, Repr

namespace FileTree

/-! ## Looking up -/

/-- The longest name of an entry. -/
def nameLimit : Nat := 255

/-- The longest path. -/
def pathLimit : Nat := 4095

/-- How many links one look-up follows. -/
def linkLimit : Nat := 40

/-- The names on the way of a path. A slash at the end asks for a directory, as a dot there does. -/
def steps (path : RawText) : List RawText :=
  let names := (segments path).filter (· ≠ [])
  if path.getLast? = some RawText.slash then names ++ [Path.currentName] else names

/-- Where the look-up of a path starts. -/
def start (path : RawText) (directory : Nat) : Nat :=
  if Path.isAbsolute path then 0 else directory

/-- Follows names from a node on. At a link, `follow` goes on from a directory with the names of the
link's target and those behind it; a link at the very end is followed only if asked for. -/
def walkNames (t : FileTree) (followLast : Bool) (follow : Nat → List RawText → Except Errno Nat)
    (node : Nat) : List RawText → Except Errno Nat
  | [] => .ok node
  | name :: rest =>
    match t.nodes[node]? with
    | some (.directory parent _ entries) =>
      if name = Path.currentName then t.walkNames followLast follow node rest
      else if name = Path.parentName then t.walkNames followLast follow parent rest
      else if nameLimit < name.length then .error .nameTooLong
      else
        match entries.lookup name with
        | none => .error .noEntry
        | some child =>
          match t.nodes[child]? with
          | some (.link target) =>
            if rest.isEmpty ∧ ¬ followLast then .ok child
            else follow (start target node) (steps target ++ rest)
          | _ => t.walkNames followLast follow child rest
    | _ => .error .notDirectory

/-- Follows names from a node on, and with them as many links as are left. -/
def walk (t : FileTree) (followLast : Bool) : Nat → Nat → List RawText → Except Errno Nat
  | 0, node, names => t.walkNames followLast (fun _ _ => .error .linkLoop) node names
  | links + 1, node, names => t.walkNames followLast (t.walk followLast links) node names

/-- Whether the system accepts raw text as a path at all. -/
def checkPath (path : RawText) : Except SystemError Unit :=
  if path.contains RawText.nul then .error .nulInPath
  else if path = [] then .error (.os .noEntry)
  else if pathLimit < path.length then .error (.os .nameTooLong)
  else .ok ()

/-- The node of a path. -/
def lookUp (path : RawText) (followLast : Bool) (t : FileTree) : Except SystemError Nat :=
  match checkPath path with
  | .error e => .error e
  | .ok () =>
    match t.walk followLast linkLimit (start path t.working) (steps path) with
    | .error e => .error (.os e)
    | .ok node => .ok node

/-- What is at a path, links followed. -/
def node? (path : RawText) (t : FileTree) : Except SystemError Node :=
  match t.lookUp path true with
  | .error e => .error e
  | .ok node =>
    match t.nodes[node]? with
    | some node => .ok node
    | none => .error (.os .noEntry)

/-- What is at a path, a link at its end not followed. -/
def link? (path : RawText) (t : FileTree) : Except SystemError Node :=
  match t.lookUp path false with
  | .error e => .error e
  | .ok node =>
    match t.nodes[node]? with
    | some node => .ok node
    | none => .error (.os .noEntry)

/-- The names in a directory. -/
def names (path : RawText) (t : FileTree) : Except SystemError (List RawText) :=
  match t.node? path with
  | .error e => .error e
  | .ok (.directory _ _ entries) => .ok (entries.map (·.1))
  | .ok _ => .error (.os .notDirectory)

/-! ## Changing -/

/-- The directory in which the last name of a path stands, and that name. -/
def placeOf (path : RawText) (t : FileTree) : Except SystemError (Nat × RawText) :=
  match checkPath path with
  | .error e => .error e
  | .ok () =>
    let names := (segments path).filter (· ≠ [])
    match t.walk true linkLimit (start path t.working) names.dropLast with
    | .error e => .error (.os e)
    | .ok directory =>
      match t.nodes[directory]?, names.getLast? with
      | some (.directory _ _ entries), some name =>
        if name = Path.currentName ∨ name = Path.parentName then .error (.os .alreadyExists)
        else if nameLimit < name.length then .error (.os .nameTooLong)
        else if (entries.lookup name).isSome then .error (.os .alreadyExists)
        else .ok (directory, name)
      | some (.directory _ _ _), none => .error (.os .alreadyExists)
      | _, _ => .error (.os .notDirectory)

/-- Makes a new entry; `make` is told the directory that it will be in. -/
def create (path : RawText) (make : Nat → Node) (t : FileTree) :
    Except SystemError Unit × FileTree :=
  match t.placeOf path with
  | .error e => (.error e, t)
  | .ok (directory, name) =>
    let nodes := t.nodes.modify directory (Node.addEntry name t.nodes.length)
    (.ok (), { t with nodes := nodes ++ [make directory] })

/-- Makes a directory. -/
def makeDirectory (path : RawText) (mode : Nat) (t : FileTree) :
    Except SystemError Unit × FileTree :=
  t.create path fun parent => .directory parent (mode ^^^ (mode &&& t.umask)) []

/-- Makes a file. -/
def makeFile (path : RawText) (bytes : List UInt8) (t : FileTree) :
    Except SystemError Unit × FileTree :=
  t.create path fun _ => .file bytes

/-- Makes a symbolic link. -/
def makeLink (path target : RawText) (t : FileTree) : Except SystemError Unit × FileTree :=
  t.create path fun _ => .link target

/-! ## Open files -/

/-- An open file. -/
structure OpenFile where
  node : Nat
  direction : Direction
deriving DecidableEq, Repr

/-- Opens what is at a path. A directory can only be read, and there is no terminal. -/
def openFile (path : RawText) (direction : Direction) (t : FileTree) : Except SystemError OpenFile :=
  match t.lookUp path true with
  | .error e => .error e
  | .ok node =>
    match t.nodes[node]?, direction with
    | some (.directory _ _ _), .write => .error (.os .isDirectory)
    | some (.device ⟨5, 0⟩), _ => .error (.os ⟨6⟩)
    | _, _ => .ok ⟨node, direction⟩

/-- Everything in an open file from its start. Devices have nothing to read. -/
def readAll (f : OpenFile) (t : FileTree) : Except Errno (List UInt8) :=
  match f.direction, t.nodes[f.node]? with
  | .write, _ => .error .badDescriptor
  | .read, some (.directory _ _ _) => .error .isDirectory
  | .read, some (.file bytes) => .ok bytes
  | .read, _ => .ok []

/-- Writes over the start of an open file, which grows as needed. Writing nothing always works. -/
def writeStart (f : OpenFile) (new : List UInt8) (t : FileTree) : Except Errno Unit × FileTree :=
  if new.isEmpty then (.ok (), t)
  else
    match f.direction, t.nodes[f.node]? with
    | .read, _ => (.error .badDescriptor, t)
    | .write, some (.file bytes) =>
      (.ok (), { t with nodes := t.nodes.set f.node (.file (new ++ bytes.drop new.length)) })
    | .write, some (.device ⟨1, 7⟩) => (.error .noSpace, t)
    | .write, _ => (.ok (), t)

end FileTree

end Gadget.Device
