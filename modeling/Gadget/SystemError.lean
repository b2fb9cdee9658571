import Gadget.Errno
/-!
# System errors

What an operation on files reports when it fails: mostly an error number of the system, sometimes
a failure that never reached the system and has only a kind and a text.
-/
namespace Gadget

/-- The kind of a failure that carries no error number. -/
inductive FailureKind
  | outOfMemory
  | invalidInput
  | other
deriving DecidableEq, Repr

/-- The failure of a system operation. -/
inductive SystemError
  /-- The system refused with this number. -/
  | os (errno : Errno)
  /-- Failed before the system was asked. -/
  | described (kind : FailureKind) (text : String)
deriving DecidableEq, Repr

namespace SystemError

/-- A path with a NUL character cannot be handed to the system at all. -/
def nulInPath : SystemError :=
  .described .invalidInput "file name contained an unexpected NUL byte"

/-- The text of the failure (`Display`). -/
def message : SystemError → String
  | .os errno => errno.message
  | .described _ text => text

/-- The error number, if the system gave one (`raw_os_error`). -/
def errno? : SystemError → Option Errno
  | .os errno => some errno
  | .described _ _ => none

end SystemError

end Gadget
