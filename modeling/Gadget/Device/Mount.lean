import Gadget.Device.Error
import Gadget.Device.FileSystem
import Gadget.Machine.Basic
/-!
# Mounting a FunctionFS instance: `mount_function_at`

An instance is mounted on a directory of its own name, directly below a root. The directory is
made if it is not there, and finding the instance mounted already is a success, so that mounting
can be repeated. A valid name is a single plain component: nothing that could lead anywhere else.
-/
namespace Gadget.Device

/-- The directory of device nodes (`DEV_DIR`). -/
def deviceDirectory : RawText := .ofString "/dev"

/-- The permissions of a directory to mount on (`MOUNT_POINT_MODE`). -/
def mountMode : Nat := 0o750

/-- The file system type of an instance (`FUNCTIONFS`). -/
def fileSystemType : RawText := .ofString "functionfs"

/-- Whether a name can be that of an instance (`validate_name`). -/
def isValidName (name : String) : Bool :=
  name ≠ "" && name.toList.all (fun c => c.toNat < 128 && c ≠ '/' && c ≠ '\x00')
    && name ≠ "." && name ≠ ".."

/-- Text as the system takes it (`CString`), which a NUL byte ends; it cannot hold another one. -/
def nulTerminated (text : RawText) : Except SystemError RawText :=
  if text.contains RawText.nul then
    .error (.described .invalidInput "data provided contains a nul byte")
  else .ok text

variable {φ κ : Type} [FileSystem φ] [Kernel κ]

/-- Mounts an instance on a directory that is there. No flags are set, and there is no data. -/
def attach (name : String) (target : RawText) (m : Machine κ) : Except DeviceError RawText × Machine κ :=
  match nulTerminated (.ofString name), nulTerminated target, nulTerminated fileSystemType with
  | .error e, _, _ | .ok _, .error e, _ | .ok _, .ok _, .error e => (.error (.system e), m)
  | .ok source, .ok place, .ok filesystem =>
    match m.mount source place filesystem 0 none with
    | (.ok (), m) => (.ok target, m.log (.mounted name target))
    | (.error e, m) =>
      if e = .busy then (.ok target, m.log (.alreadyMounted name target))
      else (.error (.system (.os e)), m)

/-- Mounts an instance below a root: the path it is mounted on (`mount_function_at`; `mount_function` below
`deviceDirectory`). -/
def mountBelow (root : RawText) (name : String) (files : φ) (m : Machine κ) :
    Except DeviceError RawText × φ × Machine κ :=
  if ¬ isValidName name then (.error (.invalidName name), files, m)
  else
    let target := Path.join root (.ofString name)
    match createDirectory target mountMode files with
    | (.error e, files) =>
      if e = .os .alreadyExists then
        let (result, m) := attach name target m
        (result, files, m)
      else (.error (.system e), files, m)
    | (.ok (), files) =>
      let (result, m) := attach name target m
      (result, files, m)

end Gadget.Device
