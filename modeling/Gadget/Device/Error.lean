import Gadget.SystemError
import Gadget.Text.Quoted
/-!
# Errors of device operations: `Error`

Why a device cannot be found, a function cannot be mounted or an endpoint cannot be opened.
-/
namespace Gadget.Device

/-- The failure of a device operation (`Error`). -/
inductive DeviceError
  /-- No device node has this number. -/
  | notFound (major minor : UInt32)
  /-- The name cannot be that of a FunctionFS instance. -/
  | invalidName (name : String)
  /-- The system refused. -/
  | system (e : SystemError)
deriving DecidableEq, Repr

namespace DeviceError

/-- The error in words (`Display`). -/
def message : DeviceError → String
  | notFound major minor => s!"no device node with number {major.toNat}:{minor.toNat}"
  | invalidName name => s!"invalid FunctionFS instance name {Text.quoted name}"
  | system e => e.message

/-- The negative error number that stands for the error in a status code. A failure that has no
number of its own counts as an input/output error (`Error::errno`). -/
def status : DeviceError → Int32
  | notFound _ _ => Errno.noEntry.negated
  | invalidName _ => Errno.invalid.negated
  | system e => (e.errno?.getD .inputOutput).negated

end DeviceError

end Gadget.Device
