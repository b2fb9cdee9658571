import Gadget.Limits
import Gadget.Transfer.Direction
import Gadget.Transfer.Error
/-!
# Endpoint plans: `EndpointConfig`

What an endpoint is to look like: its file, the direction of its first transfers, and the geometry
of its buffers, that is how many there are, how long each is, and how many bytes at the front stay
out of transfers.
-/
namespace Gadget

/-- What an endpoint is to look like (`EndpointConfig`). -/
structure EndpointPlan where
  file : Int32
  direction : Direction
  /-- How many buffers. -/
  count : Nat
  /-- The length of each buffer in bytes. -/
  size : Nat
  /-- The bytes at the front of each buffer that stay out of transfers. -/
  header : Nat
deriving DecidableEq, Repr

namespace EndpointPlan

/-- The usual number of buffers (`DEFAULT_BUFFER_COUNT`). -/
def usualCount : Nat := 4

/-- The usual length of a buffer (`DEFAULT_BUFFER_SIZE`). -/
def usualSize : Nat := 16 * 1024

/-- An endpoint of the usual geometry, without a header (`EndpointConfig::new`). -/
def usual (file : Int32) (direction : Direction) : EndpointPlan :=
  ⟨file, direction, usualCount, usualSize, 0⟩

/-- How many bytes one transfer moves. -/
def transferLength (p : EndpointPlan) : Nat := p.size - p.header

/-- Whether the geometry is usable; of several reasons against it, the first is reported
(`EndpointConfig::validate`, `validate_geometry`). -/
def check (p : EndpointPlan) : Except TransferError Unit :=
  if p.count = 0 then .error (.badArgument .noBuffers)
  else if p.size = 0 then .error (.badArgument .emptyBuffer)
  else if p.size ≤ p.header then .error (.badArgument (.headerTooLong p.header p.size))
  else if Limits.int32 < p.transferLength then
    .error (.badArgument (.transferTooLong p.transferLength))
  else .ok ()

theorem check_eq_ok_iff {p : EndpointPlan} :
    p.check = .ok () ↔ 0 < p.count ∧ p.header < p.size ∧ p.transferLength ≤ Limits.int32 := by
  unfold check
  split
  · simp; omega
  · split
    · simp; omega
    · split
      · simp; omega
      · split
        · simp; omega
        · simp; omega

end EndpointPlan

end Gadget
