/-
Fields and layouts of process-data records.

Fields are placed back to back from offset zero and never move at run time.  A
layout says how many bytes of each direction a kind of device uses; it has to
hold the common header and fit the fixed capacity.
-/
namespace FieldbusNode

/-- Bytes either direction can hold. -/
def recordCapacity : Nat := 64

/-- A run of bytes in a record. -/
structure Field where
  offset : Nat
  width : Nat
  deriving DecidableEq

namespace Field

/-- The first field of a record. -/
def first (width : Nat) : Field := ⟨0, width⟩

/-- The field directly behind another. -/
def followedBy (f : Field) (width : Nat) : Field := ⟨f.offset + f.width, width⟩

/-- One past the last byte. -/
def stop (f : Field) : Nat := f.offset + f.width

/-- The fields of the given widths, placed back to back. -/
def chain : List Nat → List Field :=
  go 0
where
  /-- The fields of the given widths, placed back to back from an offset on. -/
  go (offset : Nat) : List Nat → List Field
    | [] => []
    | width :: widths => ⟨offset, width⟩ :: go (offset + width) widths

end Field

/-! ### The common header -/

namespace Inbound

/-- The state the master asks for. -/
def command : Field := .first 1

/-- The master's cycle counter. -/
def masterCounter : Field := command.followedBy 2

/-- Commanded motor current, behind the header of an actuator's record. -/
def motorCurrent : Field := masterCounter.followedBy 4

/-- First byte behind the header. -/
def headerEnd : Nat := masterCounter.stop

end Inbound

namespace Outbound

/-- Identity of the node. -/
def deviceId : Field := .first 1

/-- The state the node is in. -/
def deviceState : Field := deviceId.followedBy 1

/-- The node's own cycle counter. -/
def deviceCounter : Field := deviceState.followedBy 1

/-- The node's error flags. -/
def errorFlags : Field := deviceCounter.followedBy 1

/-- First byte behind the header. -/
def headerEnd : Nat := errorFlags.stop

end Outbound

/-- Record sizes of one kind of device. -/
structure Layout where
  name : String
  rxSize : Nat
  txSize : Nat
  deriving DecidableEq

namespace Layout

/-- Both records hold the header and fit the capacity. -/
def Valid (l : Layout) : Prop :=
  Inbound.headerEnd ≤ l.rxSize ∧ Outbound.headerEnd ≤ l.txSize ∧
    l.rxSize ≤ recordCapacity ∧ l.txSize ≤ recordCapacity

instance (l : Layout) : Decidable l.Valid := by
  unfold Valid; infer_instance

/-- The wording of a refused layout. -/
def refusal (l : Layout) : String :=
  "layout " ++ l.name ++ ": rx " ++ toString l.rxSize ++ " / tx " ++ toString l.txSize ++
    " bytes outside header..capacity"

end Layout
end FieldbusNode
