/-!
Time as a node sees it. Instants and spans are natural numbers of microseconds;
an instant counts from the start of the clock. The clock is 64 bits wide, so an
instant computed at or past `Clock.limit` does not exist for a node: computations
carry such values along and are judged at their end.
-/
namespace VehicleBus.Clock

/-- The first instant that a 64-bit clock cannot hold. -/
def limit : Nat := 18446744073709551616

/-- One millisecond, in microseconds. -/
def millisecond : Nat := 1000

/-- One second, in microseconds. -/
def second : Nat := 1000 * millisecond

/-- Nanoseconds in one second. -/
def nanosPerSecond : Nat := 1000000000

/-- Quotient rounded up, so that a remainder is not lost. -/
def ceilDiv (amount unit : Nat) : Nat := (amount + unit - 1) / unit

/-- The rounded quotient is the least number of units that covers the amount. -/
theorem ceilDiv_le_iff (amount unit count : Nat) (positive : 0 < unit) :
    ceilDiv amount unit ≤ count ↔ amount ≤ count * unit := by
  have bound := Nat.div_lt_iff_lt_mul positive (x := amount + unit - 1) (y := count + 1)
  rw [Nat.succ_mul] at bound
  unfold ceilDiv
  omega

/-- What is covered in excess is less than one unit. -/
theorem ceilDiv_mul_lt (amount unit : Nat) (positive : 0 < unit) :
    ceilDiv amount unit * unit < amount + unit := by
  have bound := Nat.div_mul_le_self (amount + unit - 1) unit
  unfold ceilDiv
  omega

/-- Nanoseconds at clock resolution. Rounding up keeps a timeout from ending early. -/
def ofNanos (nanos : Nat) : Nat := ceilDiv nanos 1000

/-- `ofNanos` is the shortest whole number of microseconds that covers the given time. -/
theorem ofNanos_le_iff (nanos micros : Nat) :
    ofNanos nanos ≤ micros ↔ nanos ≤ 1000 * micros := by
  unfold ofNanos ceilDiv
  omega

/-- The report that an instant outside the clock was computed. -/
def overflowMessage : String := "overflow when adding duration to instant"

end VehicleBus.Clock
