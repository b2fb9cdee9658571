import Gadget.Device.Endpoint
import Gadget.Device.Mount
import Gadget.Device.Scan
/-!
# Sessions with devices

A file tree beside a machine, and the calls that a gadget process makes on both before it has an
engine. An opened endpoint is used at once: data flows in the direction it was opened for, and
then the other direction is tried too.
-/
namespace Gadget.Device

/-- A file tree that holds the usual device nodes and an empty working directory. -/
def FileTree.standard : FileTree where
  nodes :=
    [.directory 0 0o755 [(.ofString "dev", 1), (.ofString "work", 2)],
      .directory 0 0o755
        [(.ofString "null", 3), (.ofString "zero", 4), (.ofString "full", 5), (.ofString "random", 6),
          (.ofString "urandom", 7), (.ofString "tty", 8)],
      .directory 0 0o755 [], .device ⟨1, 3⟩, .device ⟨1, 5⟩, .device ⟨1, 7⟩, .device ⟨1, 8⟩,
      .device ⟨1, 9⟩, .device ⟨5, 0⟩]
  working := 2
  umask := 0o022

/-- A call on devices. -/
inductive DeviceCall
  | findNode (directory : RawText) (number : DeviceNumber)
  | mountBelow (root : RawText) (name : String)
  /-- Opens an OUT endpoint, reads it to its end and tries to write a byte. -/
  | receive (mounted : RawText) (address : UInt8)
  /-- Opens an IN endpoint, writes some bytes and tries to read. -/
  | send (mounted : RawText) (address : UInt8) (bytes : List UInt8)
  /-- Looks at what is at a path, a link at its end not followed. -/
  | look (path : RawText)
deriving DecidableEq, Repr

/-- What a call on devices gives back. -/
inductive DeviceAnswer
  | path (path : RawText)
  | received (read : Except Errno (List UInt8)) (write : Except Errno Unit)
  | sent (write : Except Errno Unit) (read : Except Errno (List UInt8))
  | seen (node : Except SystemError Node)
deriving Repr

/-- A file tree and a machine. -/
structure DeviceSession (κ : Type) where
  files : FileTree
  machine : Machine κ

namespace DeviceSession

variable {κ : Type} [Kernel κ]

/-- The standard file tree, and a machine on which nothing has happened. -/
def boot (kernel : κ) : DeviceSession κ := ⟨.standard, .boot kernel⟩

/-- Makes a call. -/
def perform (call : DeviceCall) (s : DeviceSession κ) :
    Except DeviceError DeviceAnswer × DeviceSession κ :=
  match call with
  | .findNode directory number =>
    let (result, machine) := Device.findNode directory number s.files s.machine
    (result.map .path, { s with machine })
  | .mountBelow root name =>
    let (result, files, machine) := Device.mountBelow root name s.files s.machine
    (result.map .path, { s with files, machine })
  | .receive mounted address =>
    match openEndpoint mounted address .read s.files s.machine with
    | (.error e, machine) => (.error e, { s with machine })
    | (.ok file, machine) =>
      let read := s.files.readAll file
      let (write, files) := s.files.writeStart file [0]
      (.ok (.received read write), { s with files, machine })
  | .send mounted address bytes =>
    match openEndpoint mounted address .write s.files s.machine with
    | (.error e, machine) => (.error e, { s with machine })
    | (.ok file, machine) =>
      let (write, files) := s.files.writeStart file bytes
      (.ok (.sent write (files.readAll file)), { s with files, machine })
  | .look path => (.ok (.seen (s.files.link? path)), s)

end DeviceSession

end Gadget.Device
