/-
Run-time checks that stop the controller.

The control loop is written so that a validated configuration never meets one of
these.  An unvalidated one can: a negative current clamp, say.  The board then
records the trap and nothing it does afterwards counts.
-/
namespace FieldbusNode

/-- A failed run-time check. -/
inductive Trap
  /-- A byte range reaches beyond the bytes it is taken from. -/
  | sliceBounds
  /-- A field reaches beyond the record size of its layout. -/
  | fieldBounds
  /-- A value was to be clamped between bounds that are out of order. -/
  | clampBounds
  /-- A counter, a sum or a negation left its machine word. -/
  | overflow
  deriving DecidableEq

end FieldbusNode
