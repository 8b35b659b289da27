/-
Clamps that are in order.

A current is drawn between bounds in two places, once in integers and once in floating
point.  Both fail if the bounds are out of order.  The limits of a configuration that
passes its checks are positive, and a positive current is a positive finite number after
it was rounded, so neither does.
-/
import FieldbusNode.Config.Validation
import FieldbusNode.Proofs.Health
import FieldbusNode.Proofs.Rounding
namespace FieldbusNode

open Simulation (SimBoard)

/-! ### Floating point -/

namespace Binary

/-- A positive integer of 32 bits is rounded to a positive finite number. -/
theorem ofInt_of_pos {i : Int} (pos : 0 < i) (small : i ≤ uint32Max) :
    ∃ mantissa exponent, binary32.ofInt i = .finite false mantissa exponent := by
  obtain ⟨mantissa, exponent, rounded, -⟩ := ofInt_eq (i := i) (by omega)
  rw [decide_eq_false (Int.not_lt.mpr pos.le)] at rounded
  exact ⟨mantissa, exponent, rounded⟩

/-- The window around zero that a positive finite number bounds is in order. -/
theorem less_negate (mantissa : Nat) (exponent : Int) :
    (Value.finite false mantissa exponent).less (Value.finite false mantissa exponent).negate =
      false := by
  show decide ((mantissa : Int) * _ < -(mantissa : Int) * _) = false
  apply decide_eq_false
  generalize 1 <<< (exponent - min exponent exponent).toNat = unit
  have above : 0 ≤ (mantissa : Int) * unit :=
    Int.mul_nonneg (Int.natCast_nonneg _) (Int.natCast_nonneg _)
  rw [Int.neg_mul]
  omega

end Binary

/-! ### Currents -/

namespace Actuator.Monitor

variable {m : Monitor} {limits : Limits} {b : SimBoard}

theorem toInt_le_uint32Max (current : Int32) : current.toInt ≤ uint32Max := by
  have small := current.toInt_lt
  unfold uint32Max
  omega

/-- The bounds of the halt controller are two finite numbers in order. -/
theorem haltCurrent_eq (pos : 0 < limits.haltMaxCurrent.toInt) (now before : UInt32) :
    ∃ current, haltCurrent limits now before = .ok current := by
  obtain ⟨mantissa, exponent, bound⟩ := Binary.ofInt_of_pos pos (toInt_le_uint32Max _)
  unfold haltCurrent
  rw [bound]
  dsimp only
  rw [Binary.less_negate, if_neg Bool.false_ne_true]
  exact ⟨_, rfl⟩

/-- The clamps that limits bound are in order, whatever is clamped. -/
structure Clamps (limits : Limits) : Prop where
  /-- Neither infinite nor a NaN. -/
  haltBound : (Binary.binary32.ofInt limits.haltMaxCurrent.toInt).isFinite = true
  halt : ∀ now before, ∃ current, haltCurrent limits now before = .ok current
  command : ∀ current, ∃ clamped, clampCurrent limits.maxMotorCurrent current = .ok clamped

theorem clamps_of_valid (valid : limits.Valid) : Clamps limits := by
  have pos := valid.haltClamp
  have order : 0 ≤ limits.maxMotorCurrent.toInt := by
    have above := valid.clamp
    omega
  refine ⟨?_, haltCurrent_eq pos, fun current => ?_⟩
  · obtain ⟨mantissa, exponent, bound⟩ := Binary.ofInt_of_pos pos (toInt_le_uint32Max _)
    rw [bound]
    rfl
  · obtain ⟨clamped, clamp, -⟩ := clampCurrent_eq order current
    exact ⟨clamped, clamp⟩

theorem trapped_commandCurrent (order : 0 ≤ m.limits.maxMotorCurrent.toInt) (current : Int32)
    (b : SimBoard) : (m.commandCurrent current b).2.2.trapped = b.trapped := by
  obtain ⟨clamped, clamp, -⟩ := clampCurrent_eq order current
  unfold commandCurrent
  split
  · rfl
  rw [clamp]
  dsimp only
  cases rejected : b.amplifierReject with
  | true =>
      simp only [SimBoard.setCurrent_of_rejecting clamped rejected]
      unfold latch Journal.noteIf
      split <;> rfl
  | false => simp only [SimBoard.setCurrent_of_accepting clamped rejected]

theorem trapped_haltStep (pos : 0 < m.limits.haltMaxCurrent.toInt)
    (order : 0 ≤ m.limits.maxMotorCurrent.toInt) (b : SimBoard) :
    (m.haltStep b).2.2.trapped = b.trapped := by
  unfold haltStep
  split
  · rfl
  split
  · rename_i now before _ _
    obtain ⟨current, made⟩ := haltCurrent_eq pos now before
    rw [made]
    exact trapped_commandCurrent order current b
  · exact trapped_commandCurrent order 0 b

end Actuator.Monitor

/-- **Under limits that passed their checks no hook of a device meets a failed one.** -/
theorem Mounted.trapped_keeps {limits : Limits} (valid : limits.Valid) (kind : Kind)
    (trapped : Option Trap) :
    Plant.Keeps fun p : Mounted SimBoard => p.Sound limits kind ∧ p.board.trapped = trapped := by
  have sound : Plant.Keeps (Sound limits kind) := sound_keeps
  have pos := valid.haltClamp
  have order : 0 ≤ limits.maxMotorCurrent.toInt := by
    have above := valid.clamp
    omega
  refine ⟨?_, ?_, ?_, ?_, ?_, ?_, ?_, ?_, ?_⟩
  · exact fun e p h => ⟨sound.note e p h.1, h.2⟩
  · intro ⟨device, b⟩ h
    refine ⟨sound.enableOutputs _ h.1, ?_⟩
    cases device <;> exact h.2
  · intro ⟨device, b⟩ h
    refine ⟨sound.disableOutputs _ h.1, ?_⟩
    cases device <;> exact h.2
  · intro data ⟨device, b⟩ h
    refine ⟨sound.updateOutputs data _ h.1, ?_⟩
    cases device with
    | actuator joint m =>
        obtain rfl : m.limits = limits := h.1.device.1
        exact (m.trapped_commandCurrent order data.currentCommand b).trans h.2
    | boom | imu => exact h.2
  · intro ⟨device, b⟩ h
    refine ⟨sound.estop _ h.1, ?_⟩
    cases device <;> exact h.2
  · exact fun p h => ⟨sound.resetError p h.1, h.2⟩
  · intro ⟨device, b⟩ h
    refine ⟨sound.runHalt _ h.1, ?_⟩
    cases device with
    | actuator joint m =>
        obtain rfl : m.limits = limits := h.1.device.1
        exact (m.trapped_haltStep pos order b).trans h.2
    | boom | imu => exact h.2
  · exact fun p h => ⟨sound.assertLine p h.1, h.2⟩
  · exact fun p h => ⟨sound.releaseLine p h.1, h.2⟩

end FieldbusNode
