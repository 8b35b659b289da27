/-
Debouncing by counting up and down.

An asserted sample counts up, a clear one down, never below zero and never above
the largest 32-bit number.  The line is tripped while the count is over the
limit, so what was asserted for `n` samples has to be clear for `n - limit`
before the trip goes away.
-/
import FieldbusNode.Word
namespace FieldbusNode

/-- Counts up by one.  At the largest 32-bit number the count stays, instead of wrapping around. -/
def countUp (n : Nat) : Nat := min (n + 1) uint32Max

/-- An up-and-down counter with a limit. -/
structure Debounce where
  count : Nat
  limit : Nat
  deriving DecidableEq

namespace Debounce

/-- A zero count. -/
def ofLimit (limit : Nat) : Debounce := ⟨0, limit⟩

/-- Takes one sample. -/
def sample (d : Debounce) (asserted : Bool) : Debounce :=
  { d with count := if asserted then countUp d.count else d.count - 1 }

/-- Whether the count is over the limit. -/
def tripped (d : Debounce) : Bool :=
  d.limit < d.count

/-- Zeroes the count. -/
def reset (d : Debounce) : Debounce :=
  { d with count := 0 }

/-- Takes samples in order. -/
def run (d : Debounce) (samples : List Bool) : Debounce :=
  samples.foldl sample d

@[simp] theorem limit_sample (d : Debounce) (asserted : Bool) :
    (d.sample asserted).limit = d.limit := rfl

@[simp] theorem limit_run (d : Debounce) (samples : List Bool) :
    (d.run samples).limit = d.limit := by
  unfold run
  induction samples generalizing d with
  | nil => rfl
  | cons s rest ih => simp [ih]

end Debounce
end FieldbusNode
