/-
Liveness of the fieldbus master.

The master advances a 16-bit counter every cycle.  Any change of it is progress,
also backwards and around the end; a run of unchanged values as long as the limit
is a trip.
-/
import FieldbusNode.Supervisor.Debounce
namespace FieldbusNode

/-- Unchanged cycles that make a stall. -/
def masterStallLimit : Nat := 10

/-- Counts cycles in a row without progress of the master. -/
structure Liveness where
  errors : Nat
  previous : UInt16
  limit : Nat
  deriving DecidableEq

namespace Liveness

/-- No stall, and zero as the reference value. -/
def ofLimit (limit : Nat) : Liveness := ⟨0, 0, limit⟩

/-- Takes this cycle's counter. -/
def observe (l : Liveness) (counter : UInt16) : Liveness :=
  { l with
    errors := if counter = l.previous then countUp l.errors else 0
    previous := counter }

/-- Whether the stall is as long as the limit. -/
def tripped (l : Liveness) : Bool :=
  l.limit ≤ l.errors

/-- Forgets the stall and takes a counter as the reference value. -/
def rearm (l : Liveness) (counter : UInt16) : Liveness :=
  { l with errors := 0, previous := counter }

/-- Forgets the stall. -/
def clear (l : Liveness) : Liveness :=
  { l with errors := 0 }

end Liveness
end FieldbusNode
