/-!
# Machine limits

Counts and lengths are natural numbers throughout. The bounds that the word sizes of the machine put
on them are the numbers of this module, and every place that meets one of them says which.
-/
namespace Gadget.Limits

/-- The largest signed 32 bit number. -/
def int32 : Nat := 0x7fffffff

/-- The largest unsigned 32 bit number. -/
def uint32 : Nat := 0xffffffff

/-- The largest signed 64 bit number. No piece of memory has more bytes than that. -/
def int64 : Nat := 0x7fffffffffffffff

/-- The largest count or length of a machine word. -/
def word : Nat := 0xffffffffffffffff

/-- Addition that stays at the largest machine word instead of passing it (`saturating_add`). -/
def saturatingAdd (a b : Nat) : Nat := min (a + b) word

/-- Addition of machine words, unless the sum is none (`checked_add`). -/
def checkedAdd (a b : Nat) : Option Nat := if a + b ≤ word then some (a + b) else none

end Gadget.Limits
