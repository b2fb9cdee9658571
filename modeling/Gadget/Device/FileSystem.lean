import Gadget.Device.FileTree
/-!
# File systems: `DirBuilder::create`

What mounting asks of a file system. A file system is any state with this answer: nothing is promised
about it, so it may refuse with any error number and change anything. A file tree is one.
-/
namespace Gadget.Device

/-- The answers of a file system whose state is `φ`. -/
class FileSystem (φ : Type) where
  /-- Makes a directory at a path, which holds no NUL byte. -/
  makeDirectory (path : RawText) (mode : Nat) : φ → Except Errno Unit × φ

/-- Makes a directory. A path with a NUL byte never reaches the file system. -/
def createDirectory {φ : Type} [FileSystem φ] (path : RawText) (mode : Nat) (files : φ) :
    Except SystemError Unit × φ :=
  if path.contains RawText.nul then (.error .nulInPath, files)
  else
    match FileSystem.makeDirectory path mode files with
    | (.ok (), files) => (.ok (), files)
    | (.error errno, files) => (.error (.os errno), files)

/-- The numbers of a tree's refusals. One that has none is that of a path with a NUL byte, which is
not asked for. -/
instance : FileSystem FileTree where
  makeDirectory path mode files :=
    let (made, files) := files.makeDirectory path mode
    (made.mapError fun e => e.errno?.getD .invalid, files)

end Gadget.Device
