/-
A device on a simulated board.

`Sound` is what holds of the two whatever has happened to them: the device was made
from its limits, it knows whether the amplifier is on, an amplifier that is off
carries no current, and no current passes the clamp.  Every hook keeps it, whichever
of the four devices it is, and the two hooks that switch the amplifier do so.

A current is commanded in two places, by the master in `run` and by the halt
controller in `halt`.  Both end in one call, and `Driven` lists what that call can
leave; so it does not matter which number the halt controller came up with.
-/
import FieldbusNode.Device
import FieldbusNode.Proofs.Board
import FieldbusNode.Proofs.Tick.Plant
namespace FieldbusNode

open Simulation (SimBoard)

namespace Actuator.Monitor

/-! ### The clamp -/

theorem clampCurrent_bounds {max current clamped : Int32}
    (h : clampCurrent max current = .ok clamped) :
    -max.toInt ≤ clamped.toInt ∧ clamped.toInt ≤ max.toInt := by
  unfold clampCurrent at h
  split at h
  · nomatch h
  split at h
  · nomatch h
  rename_i _ sign
  have nonneg : 0 ≤ max.toInt := by simpa [Int32.lt_iff_toInt_lt] using sign
  have small := max.toInt_lt
  have negated : (-max).toInt = -max.toInt := by
    rw [Int32.toInt_neg]
    exact Int.bmod_eq_of_le (by omega) (by omega)
  split at h
  · obtain rfl := Except.ok.inj h
    omega
  rename_i low
  split at h
  · obtain rfl := Except.ok.inj h
    omega
  rename_i high
  obtain rfl := Except.ok.inj h
  rw [Int32.lt_iff_toInt_lt] at low high
  omega

/-! ### Commanding a current -/

/-- What commanding a current can make of a monitor and its board. -/
inductive Driven (m : Monitor) (b : SimBoard) : Monitor → SimBoard → Prop
  /-- Nothing is commanded. -/
  | rests : Driven m b m b
  | traps (t : Trap) : Driven m b m (Journal.trap t b)
  | refused (e : HardwareError) :
      Driven m b { m with flags := m.flags.raise .amplifier }
        (Journal.noteIf (!m.flags.has .amplifier) (.actuatorFault .amplifier e) b)
  | takes {current : Int32} (low : -m.limits.maxMotorCurrent.toInt ≤ current.toInt)
      (high : current.toInt ≤ m.limits.maxMotorCurrent.toInt) :
      Driven m b m { b with motorCurrent := if b.amplifierEnabled then current else 0 }

theorem Driven.amplifierEnabled {m m' : Monitor} {b b' : SimBoard} (driven : m.Driven b m' b') :
    b'.amplifierEnabled = b.amplifierEnabled := by
  cases driven with
  | rests => rfl
  | traps => rfl
  | refused =>
      exact congrArg Prod.fst (SimBoard.amplifier_of_wiring (SimBoard.wiring_noteIf b _ _))
  | takes => rfl

theorem commandCurrent_driven (m : Monitor) (current : Int32) (b : SimBoard) :
    Driven m b (m.commandCurrent current b).2.1 (m.commandCurrent current b).2.2 := by
  unfold commandCurrent
  split
  · exact .rests
  cases clamped : clampCurrent m.limits.maxMotorCurrent current with
  | error t => exact .traps t
  | ok current =>
      obtain ⟨low, high⟩ := clampCurrent_bounds clamped
      cases rejected : b.amplifierReject with
      | true =>
          simp only [SimBoard.setCurrent_of_rejecting current rejected]
          exact .refused _
      | false =>
          simp only [SimBoard.setCurrent_of_accepting current rejected]
          exact .takes low high

theorem haltStep_driven (m : Monitor) (b : SimBoard) :
    Driven m b (m.haltStep b).2.1 (m.haltStep b).2.2 := by
  unfold haltStep
  split
  · exact .rests
  split
  · split
    · exact .traps _
    · exact commandCurrent_driven m _ b
  · exact commandCurrent_driven m 0 b

end Actuator.Monitor

theorem Joint.kind_injective {a b : Joint} (h : a.kind = b.kind) : a = b := by
  cases a <;> cases b <;> first | rfl | nomatch h

namespace Device

/-- Whether the device holds its outputs for energized; most have none. -/
def outputsEnabled : Device → Bool
  | .actuator _ m => m.outputsEnabled
  | .boom _ | .imu _ => false

/-- The device was made from these limits. -/
def Follows (limits : Limits) : Device → Prop
  | .actuator joint m =>
    m.limits = limits ∧ m.motorEncoder = joint.motorEncoder ∧
      m.limitSwitch.limit = limits.limitSwitchLimit.toNat
  | .boom unit => unit.limits = limits
  | .imu _ => True

end Device

namespace Mounted

/-- A device of a kind and its board, as its limits want them. -/
structure Sound (limits : Limits) (kind : Kind) (p : Mounted SimBoard) : Prop where
  kind : p.device.kind = kind
  device : p.device.Follows limits
  outputs : p.device.outputsEnabled = p.board.amplifierEnabled
  still : p.board.amplifierEnabled = false → p.board.motorCurrent = 0
  low : -limits.maxMotorCurrent.toInt ≤ p.board.motorCurrent.toInt
  high : p.board.motorCurrent.toInt ≤ limits.maxMotorCurrent.toInt

variable {limits : Limits} {kind : Kind}

theorem Sound.actuator {joint : Joint} {device : Device} {b : SimBoard}
    (h : Sound limits joint.kind ⟨device, b⟩) : ∃ m, device = .actuator joint m := by
  have kind : device.kind = joint.kind := h.kind
  cases device with
  | actuator other m =>
      obtain rfl := Joint.kind_injective kind
      exact ⟨m, rfl⟩
  | boom => cases joint <;> nomatch kind
  | imu => cases joint <;> nomatch kind

/-- What leaves the amplifier alone keeps the rest. -/
theorem Sound.congr {p p' : Mounted SimBoard} (h : Sound limits kind p)
    (same : p'.device.kind = p.device.kind)
    (follows : p.device.Follows limits → p'.device.Follows limits)
    (outputs : p'.device.outputsEnabled = p.device.outputsEnabled)
    (amplifier : p'.board.amplifier = p.board.amplifier) : Sound limits kind p' := by
  have enabled : p'.board.amplifierEnabled = p.board.amplifierEnabled :=
    congrArg Prod.fst amplifier
  have current : p'.board.motorCurrent = p.board.motorCurrent := congrArg Prod.snd amplifier
  refine ⟨same.trans h.kind, follows h.device, ?_, ?_, ?_, ?_⟩
  · rw [outputs, enabled, h.outputs]
  · rw [enabled, current]
    exact h.still
  · rw [current]
    exact h.low
  · rw [current]
    exact h.high

theorem Sound.rewired {device : Device} {b b' : SimBoard} (h : Sound limits kind ⟨device, b⟩)
    (wiring : b'.wiring = b.wiring) : Sound limits kind ⟨device, b'⟩ :=
  h.congr rfl id rfl (SimBoard.amplifier_of_wiring wiring)

/-- A device that switches its amplifier knows that it did. -/
theorem Sound.switched {device device' : Device} {b : SimBoard} (on : Bool)
    (h : Sound limits kind ⟨device, b⟩) (same : device'.kind = device.kind)
    (follows : device.Follows limits → device'.Follows limits)
    (outputs : device'.outputsEnabled = on) : Sound limits kind ⟨device', b.setAmplifier on⟩ where
  kind := same.trans h.kind
  device := follows h.device
  outputs := outputs
  still := by
    intro off
    have off : on = false := off
    subst off
    rfl
  low := by
    have low := h.low
    have high := h.high
    cases on with
    | true => exact low
    | false =>
        show -limits.maxMotorCurrent.toInt ≤ 0
        omega
  high := by
    have low := h.low
    have high := h.high
    cases on with
    | true => exact high
    | false =>
        show 0 ≤ limits.maxMotorCurrent.toInt
        omega

theorem Sound.driven {joint : Joint} {m m' : Actuator.Monitor} {b b' : SimBoard}
    (h : Sound limits kind ⟨.actuator joint m, b⟩) (driven : m.Driven b m' b') :
    Sound limits kind ⟨.actuator joint m', b'⟩ := by
  cases driven with
  | rests => exact h
  | traps => exact h.rewired rfl
  | refused e =>
      have latched : Sound limits kind
          ⟨.actuator joint { m with flags := m.flags.raise .amplifier }, b⟩ :=
        h.congr rfl id rfl rfl
      exact latched.rewired (SimBoard.wiring_noteIf b _ _)
  | @takes current low high =>
      have made : m.limits = limits := h.device.1
      rw [made] at low high
      have bounds := h.low
      refine ⟨h.kind, h.device, h.outputs, ?_, ?_, ?_⟩
      · intro off
        have off : b.amplifierEnabled = false := off
        simp [off]
      · show _ ≤ (if b.amplifierEnabled then current else 0).toInt
        split
        · exact low
        · simp only [Int32.toInt_zero]
          omega
      · show (if b.amplifierEnabled then current else 0).toInt ≤ _
        split
        · exact high
        · simp only [Int32.toInt_zero]
          omega

/-- **Every hook keeps a device and its board sound.** -/
theorem sound_keeps : Plant.Keeps (Sound limits kind) where
  note e p h := h.congr rfl id rfl rfl
  enableOutputs := by
    intro ⟨device, b⟩ h
    cases device with
    | actuator joint m => exact h.switched true rfl id rfl
    | boom | imu => exact h
  disableOutputs := by
    intro ⟨device, b⟩ h
    cases device with
    | actuator joint m => exact h.switched false rfl id rfl
    | boom | imu => exact h
  updateOutputs := by
    intro data ⟨device, b⟩ h
    cases device with
    | actuator joint m => exact h.driven (m.commandCurrent_driven data.currentCommand b)
    | boom | imu => exact h
  estop := by
    intro ⟨device, b⟩ h
    cases device with
    | actuator joint m => exact h.switched false rfl id rfl
    | boom | imu => exact h.congr rfl id rfl rfl
  resetError := by
    intro ⟨device, b⟩ h
    cases device <;> exact h.congr rfl id rfl rfl
  runHalt := by
    intro ⟨device, b⟩ h
    cases device with
    | actuator joint m => exact h.driven (m.haltStep_driven b)
    | boom | imu => exact h
  assertLine p h := h.congr rfl id rfl rfl
  releaseLine p h := h.congr rfl id rfl rfl

/-- What is kept by notes, by the switch of the amplifier, by commanding a current and by the own
assertion of the stop line is kept by every hook. -/
theorem board_keeps {P : SimBoard → Prop}
    (noted : ∀ (e : Event) (b : SimBoard), P b → P (Journal.note e b))
    (switched : ∀ (on : Bool) (b : SimBoard), P b → P (b.setAmplifier on))
    (driven : ∀ {m m' : Actuator.Monitor} {b b' : SimBoard}, m.Driven b m' b' → P b → P b')
    (asserted : ∀ (own : Bool) (b : SimBoard), P b → P { b with selfAsserted := own }) :
    Plant.Keeps fun p : Mounted SimBoard => P p.board where
  note e p h := noted e p.board h
  enableOutputs := by
    intro ⟨device, b⟩ h
    cases device with
    | actuator joint m => exact switched true b h
    | boom | imu => exact h
  disableOutputs := by
    intro ⟨device, b⟩ h
    cases device with
    | actuator joint m => exact switched false b h
    | boom | imu => exact h
  updateOutputs := by
    intro data ⟨device, b⟩ h
    cases device with
    | actuator joint m => exact driven (m.commandCurrent_driven data.currentCommand b) h
    | boom | imu => exact h
  estop := by
    intro ⟨device, b⟩ h
    cases device with
    | actuator joint m => exact switched false b h
    | boom | imu => exact h
  resetError _ h := h
  runHalt := by
    intro ⟨device, b⟩ h
    cases device with
    | actuator joint m => exact driven (m.haltStep_driven b) h
    | boom | imu => exact h
  assertLine p h := asserted true p.board h
  releaseLine p h := asserted false p.board h

/-- What does not depend on the monitor of an actuator, on the flags of a sensor or on the number
that an inertial sensor expects next is kept by every hook: no hook changes anything else. -/
theorem device_keeps {P : Device → Prop}
    (actuators : ∀ {joint : Joint} {m : Actuator.Monitor} (m' : Actuator.Monitor),
      P (.actuator joint m) → P (.actuator joint m'))
    (booms : ∀ {unit : Boom} (flags : Flags),
      P (.boom unit) → P (.boom { unit with flags := flags }))
    (units : ∀ {unit : Imu} (flags : Flags) (expected : Option UInt8),
      P (.imu unit) → P (.imu { unit with flags := flags, expected := expected })) :
    Plant.Keeps fun p : Mounted SimBoard => P p.device where
  note _ _ h := h
  enableOutputs := by
    intro ⟨device, b⟩ h
    cases device with
    | actuator joint m => exact actuators _ h
    | boom | imu => exact h
  disableOutputs := by
    intro ⟨device, b⟩ h
    cases device with
    | actuator joint m => exact actuators _ h
    | boom | imu => exact h
  updateOutputs := by
    intro data ⟨device, b⟩ h
    cases device with
    | actuator joint m => exact actuators _ h
    | boom | imu => exact h
  estop := by
    intro ⟨device, b⟩ h
    cases device with
    | actuator joint m => exact actuators _ h
    | boom unit => exact booms _ h
    | imu unit => exact units _ _ h
  resetError := by
    intro ⟨device, b⟩ h
    cases device with
    | actuator joint m => exact actuators _ h
    | boom unit => exact booms _ h
    | imu unit => exact units _ _ h
  runHalt := by
    intro ⟨device, b⟩ h
    cases device with
    | actuator joint m => exact actuators _ h
    | boom | imu => exact h
  assertLine _ h := h
  releaseLine _ h := h

/-- **The hooks of an actuator switch its amplifier.** -/
theorem sound_switches (joint : Joint) :
    Plant.Switches (Sound limits joint.kind) (·.board.amplifierEnabled) where
  note _ _ := rfl
  enableOutputs := by
    intro ⟨device, b⟩ h
    obtain ⟨m, rfl⟩ := h.actuator
    rfl
  disableOutputs := by
    intro ⟨device, b⟩ h
    obtain ⟨m, rfl⟩ := h.actuator
    rfl
  updateOutputs := by
    intro data ⟨device, b⟩
    cases device with
    | actuator joint m => exact (m.commandCurrent_driven data.currentCommand b).amplifierEnabled
    | boom | imu => rfl
  estop := by
    intro ⟨device, b⟩ h
    obtain ⟨m, rfl⟩ := h.actuator
    rfl
  resetError _ := rfl
  runHalt := by
    intro ⟨device, b⟩
    cases device with
    | actuator joint m => exact (m.haltStep_driven b).amplifierEnabled
    | boom | imu => rfl
  assertLine _ := rfl
  releaseLine _ := rfl

theorem outputsEnabled_estop (p : Mounted SimBoard) :
    (Plant.estop p).device.outputsEnabled = false := by
  obtain ⟨device, b⟩ := p
  cases device <;> rfl

/-- Whatever the device is, its emergency stop leaves the amplifier off. -/
theorem Sound.off_estop {p : Mounted SimBoard} (h : p.Sound limits kind) :
    (Plant.estop p).board.amplifierEnabled = false := by
  rw [← (sound_keeps.estop p h).outputs]
  exact p.outputsEnabled_estop

end Mounted
end FieldbusNode
