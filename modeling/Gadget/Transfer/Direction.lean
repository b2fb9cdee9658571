/-!
# Transfer directions: `Direction`

A transfer reads from the host (an OUT endpoint) or writes to it (an IN endpoint). The direction
decides the operation code of the descriptor and nothing else.
-/
namespace Gadget

/-- The direction of a transfer, seen from the gadget. -/
inductive Direction
  | read
  | write
deriving DecidableEq, Repr

namespace Direction

/-- The direction's name (`Display for Direction`). -/
def text : Direction → String
  | read => "read"
  | write => "write"

/-- The operation code of a descriptor, which is that of a positioned read or a positioned write
(`Direction::opcode`). -/
def opcode : Direction → UInt16
  | read => 0
  | write => 1

end Direction

end Gadget
