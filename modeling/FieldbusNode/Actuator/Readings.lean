/-
What an actuator reads in one cycle.

Every supervised input is read once, in a fixed order, and a read that fails does
not keep the others from being made.  `Readings.sample` turns the results into
numbers: a failed read is replaced by a value on the unsafe side of its limit.
-/
import FieldbusNode.Hardware
namespace FieldbusNode.Actuator

/-- The result of one read. -/
abbrev Reading (α : Type) := Except HardwareError α

/-- The results of all reads of one cycle. -/
structure Readings where
  output : Reading UInt32
  /-- `none` if the actuator has no encoder on the motor side. -/
  motor : Option (Reading UInt32)
  thermistors : Triple (Reading UInt16)
  motorVoltage : Reading UInt16
  logicVoltage : Reading UInt16
  limitSwitches : Reading UInt8
  amplifierFault : Reading Bool

/-- Inputs of one cycle. -/
structure Sample where
  /-- Output-side position, `none` if the read failed. -/
  outputPosition : Option UInt32
  /-- Motor-side position, `none` if the encoder is absent or the read failed. -/
  motorPosition : Option UInt32
  thermistors : Triple UInt16
  motorVoltage : UInt16
  logicVoltage : UInt16
  limitSwitches : UInt8
  amplifierFault : Bool
  deriving DecidableEq

/-- The value of a reading, if it succeeded. -/
def value? {α : Type} : Reading α → Option α
  | .ok a => some a
  | .error _ => none

/-- The value of a reading, or the given one if it failed. -/
def valueOr {α : Type} (substitute : α) (r : Reading α) : α :=
  (value? r).getD substitute

/-- The flag and the error of a reading that failed. -/
def failure? {α : Type} (flag : Flag) : Reading α → Option (Flag × HardwareError)
  | .ok _ => none
  | .error e => some (flag, e)

namespace Readings

/-- The sample the readings amount to.  A thermistor that cannot be read counts as hottest, a
supply as dead, the amplifier as faulty, the switches as open. -/
def sample (r : Readings) : Sample where
  outputPosition := value? r.output
  motorPosition := r.motor.bind value?
  thermistors := r.thermistors.map (valueOr 65535)
  motorVoltage := valueOr 0 r.motorVoltage
  logicVoltage := valueOr 0 r.logicVoltage
  limitSwitches := valueOr 0 r.limitSwitches
  amplifierFault := valueOr true r.amplifierFault

/-- The failed reads in the order they were made, each with the flag it raises. -/
def failures (r : Readings) : List (Flag × HardwareError) :=
  [failure? .sensor r.output,
    r.motor.bind (failure? .sensor),
    failure? .sensor r.thermistors.first,
    failure? .sensor r.thermistors.second,
    failure? .sensor r.thermistors.third,
    failure? .sensor r.motorVoltage,
    failure? .sensor r.logicVoltage,
    failure? .sensor r.limitSwitches,
    failure? .amplifier r.amplifierFault].filterMap id

/-- Reads every supervised input of a board. -/
def collect {β : Type} [Hardware β] (motorEncoder : Bool) (b : β) : Readings × β :=
  let (output, b) := Hardware.readEncoder .output b
  let (motor, b) :=
    if motorEncoder then
      let (motor, b) := Hardware.readEncoder .motor b
      (some motor, b)
    else (none, b)
  let (first, b) := Hardware.readAnalog (.thermistor 0) b
  let (second, b) := Hardware.readAnalog (.thermistor 1) b
  let (third, b) := Hardware.readAnalog (.thermistor 2) b
  let (motorVoltage, b) := Hardware.readAnalog .motorVoltage b
  let (logicVoltage, b) := Hardware.readAnalog .logicVoltage b
  let (limitSwitches, b) := Hardware.readLimitSwitches b
  let (amplifierFault, b) := Hardware.readAmplifierFault b
  ({ output, motor, thermistors := ⟨first, second, third⟩, motorVoltage, logicVoltage,
     limitSwitches, amplifierFault }, b)

end Readings
end FieldbusNode.Actuator
