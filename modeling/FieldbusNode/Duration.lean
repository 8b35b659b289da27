/-
Durations.

Virtual time, and whatever is measured against it, is a number of nanoseconds.
Configurations and telemetry count in whole microseconds: a configured time is an
exact duration, and what is told of a duration leaves out the rest of a microsecond.
-/
import FieldbusNode.Word
namespace FieldbusNode.Duration

/-- The longest duration: its seconds fill a 64-bit word. -/
def longest : Nat := uint64Max * 1000000000 + 999999999

/-- The duration of so many microseconds. -/
def ofMicros (micros : Nat) : Nat := micros * 1000

/-- The whole microseconds of a duration. -/
def toMicros (nanos : Nat) : Nat := nanos / 1000

/-- The same in a 64-bit word, which a long duration wraps around. -/
def toMicrosWord (nanos : Nat) : Nat := toMicros nanos % (uint64Max + 1)

@[simp] theorem ofMicros_le_ofMicros {a b : Nat} : ofMicros a ≤ ofMicros b ↔ a ≤ b :=
  Nat.mul_le_mul_right_iff (by decide)

end FieldbusNode.Duration
