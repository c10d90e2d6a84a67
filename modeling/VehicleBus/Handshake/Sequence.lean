import VehicleBus.Clock

/-!
The two handshakes that move a network into System Configuration and out of it:
three bytes each, sent one by one.
-/
namespace VehicleBus.Handshake

inductive Sequence where
  | enter
  | exit
  deriving DecidableEq, Repr

namespace Sequence

/-- The bytes of a sequence: the letters CFG to enter and OPR to leave. -/
def bytes : Sequence → List UInt8
  | enter => [67, 70, 71]
  | exit => [79, 80, 82]

/-- The byte at a position, counted from zero. -/
def byte? (sequence : Sequence) (position : Nat) : Option UInt8 := sequence.bytes[position]?

/-- The number of bytes of either sequence. -/
def size : Nat := 3

@[simp] theorem length_bytes (sequence : Sequence) : sequence.bytes.length = size := by
  cases sequence <;> rfl

theorem byte?_eq_none_iff (sequence : Sequence) (position : Nat) :
    sequence.byte? position = none ↔ size ≤ position := by
  simp [byte?]

theorem lt_size_of_byte? {sequence : Sequence} {position : Nat} {byte : UInt8}
    (there : sequence.byte? position = some byte) : position < size := by
  rw [← Nat.not_le, ← sequence.byte?_eq_none_iff, there]
  exact Option.some_ne_none byte

end Sequence

/-- The longest gap between two bytes of one sequence. -/
def maxGap : Nat := 400 * Clock.millisecond

/-- The time after which a pending enter sequence starts over. -/
def resendInterval : Nat := Clock.second

end VehicleBus.Handshake
