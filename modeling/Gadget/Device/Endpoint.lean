import Gadget.Device.Error
import Gadget.Device.FileTree
import Gadget.Machine.Basic
/-!
# Endpoint files: `endpoint_path`, `open_out_endpoint`, `open_in_endpoint`

A mounted instance shows each endpoint as a file. An OUT endpoint carries data from the host and
is opened to be read, an IN endpoint to be written; neither is created or truncated.
-/
namespace Gadget.Device

/-- The path of an endpoint's file (`endpoint_path`). -/
def endpointFile (mounted : RawText) (address : UInt8) : RawText :=
  Path.join mounted (.ofString s!"ep{address.toNat}")

variable {κ : Type}

/-- Opens an endpoint for transfers in one direction: to read is `open_out_endpoint`, to write
`open_in_endpoint`. -/
def openEndpoint (mounted : RawText) (address : UInt8) (direction : Direction) (files : FileTree)
    (m : Machine κ) : Except DeviceError FileTree.OpenFile × Machine κ :=
  let path := endpointFile mounted address
  match files.openFile path direction with
  | .error e => (.error (.system e), m)
  | .ok file => (.ok file, m.log (.openedEndpoint direction path))

end Gadget.Device
