import Gadget.Text.Raw
/-!
# Paths: `Path::join`, `Path::components`

A path is raw text; slashes separate its segments. Two readings of it are needed: the `components`
that say which place a path means before anything is looked up, and `join`, which puts a name
behind a path and lets an absolute name replace it. Both go by bytes, so that it does not matter whether
the path can be read as characters.
-/
namespace Gadget.Device

/-- The segments of a path between slashes, empty ones included. There is always one. -/
def segments : RawText → List RawText
  | [] => [[]]
  | c :: cs =>
    if c = RawText.slash then [] :: segments cs
    else
      match segments cs with
      | [] => [[c]]
      | s :: rest => (c :: s) :: rest

namespace Path

/-- The name by which a directory has itself. -/
def currentName : RawText := [RawText.dot]

/-- The name by which a directory has the one above. -/
def parentName : RawText := [RawText.dot, RawText.dot]

/-- A path that starts at the root directory (`is_absolute`). -/
def isAbsolute (path : RawText) : Bool := path.head? = some RawText.slash

/-- The path of a name below a base. A separator is added where the base is not empty and does not
end in one; an absolute name stands for itself. -/
def join (base name : RawText) : RawText :=
  if isAbsolute name then name
  else if base = [] ∨ base.getLast? = some RawText.slash then base ++ name
  else base ++ RawText.slash :: name

/-! ## Components -/

/-- A step of a path (`Component`). -/
inductive Component
  /-- The root directory. -/
  | root
  /-- The current directory; it only counts at the very front. -/
  | current
  /-- The directory above. -/
  | parent
  /-- The entry of this name. -/
  | normal (name : RawText)
deriving DecidableEq, Repr

/-- What a segment that is not at the front contributes. -/
def Component.ofSegment (segment : RawText) : Option Component :=
  if segment = [] ∨ segment = currentName then none
  else if segment = parentName then some .parent
  else some (.normal segment)

/-- What the first segment contributes: one before a leading slash is the root directory, and a dot
counts only here. -/
def Component.ofFirst (absolute : Bool) (segment : RawText) : Option Component :=
  if absolute then some .root
  else if segment = currentName then some .current
  else ofSegment segment

/-- The components of a path. -/
def components (path : RawText) : List Component :=
  match segments path with
  | [] => []
  | first :: rest =>
    (Component.ofFirst (isAbsolute path) first).toList ++ rest.filterMap Component.ofSegment

end Path

end Gadget.Device
