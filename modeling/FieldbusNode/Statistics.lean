/-
Timing statistics of a controller.

Durations are signed 64-bit nanoseconds.  The running sum may not leave that
range.
-/
import FieldbusNode.Word
namespace FieldbusNode

/-- Statistics over the synchronized cycles so far. -/
structure Statistics where
  cycleCount : Nat
  /-- Durations of cycles in nanoseconds. -/
  last : Int
  least : Int
  greatest : Int
  sum : Int
  /-- Cycles that took longer than the cycle time. -/
  overruns : Nat
  /-- The largest time between an edge and its sampling, in nanoseconds. -/
  maxLatency : Int
  /-- Edges lost between observed ones. -/
  missedEdges : Nat
  /-- Polls that ended without an edge. -/
  idlePolls : Nat
  deriving DecidableEq

namespace Statistics

/-- No cycles. -/
def zero : Statistics where
  cycleCount := 0
  last := 0
  least := int64Max
  greatest := 0
  sum := 0
  overruns := 0
  maxLatency := 0
  missedEdges := 0
  idlePolls := 0

/-- Takes the duration of a cycle and the latency of its sampling. -/
def record (s : Statistics) (duration latency : Int) : Statistics :=
  { s with
    cycleCount := s.cycleCount + 1
    last := duration
    least := min duration s.least
    greatest := max duration s.greatest
    sum := s.sum + duration
    maxLatency := max latency s.maxLatency }

/-- The running sum is in its range. -/
def InRange (s : Statistics) : Prop :=
  int64Min ≤ s.sum ∧ s.sum ≤ int64Max

instance (s : Statistics) : Decidable s.InRange :=
  inferInstanceAs (Decidable (_ ∧ _))

/-- Counts a cycle that was late. -/
def countOverrun (s : Statistics) (late : Bool) : Statistics :=
  { s with overruns := s.overruns + late.toNat }

/-- Average duration, cut towards zero; zero without cycles. -/
def average (s : Statistics) : Int :=
  if s.cycleCount = 0 then 0 else s.sum.tdiv s.cycleCount

end Statistics
end FieldbusNode
