/-
A bench board for one device.

Every reading is set from outside, or set to fail, and every hardware call is
recorded, also a failing one.  `Bare` is a board that supports nothing.
-/
import FieldbusNode.Hardware
namespace FieldbusNode.Bench

/-- A hardware call. -/
inductive Call
  | encoder (channel : EncoderChannel)
  | analog (channel : AnalogChannel)
  | limitSwitches
  | amplifierFault
  | amplifier (enabled : Bool)
  | current (value : Int32)
  | imuSync
  | imuRead
  deriving DecidableEq

/-- Text of a call. -/
def Call.render : Call → String
  | .encoder channel => "encoder " ++ channel.name
  | .analog channel => "analog " ++ channel.name
  | .limitSwitches => "limit_switches"
  | .amplifierFault => "amp_fault"
  | .amplifier enabled => "amp " ++ (if enabled then "true" else "false")
  | .current value => "current " ++ toString value.toInt
  | .imuSync => "imu_sync"
  | .imuRead => "imu_read"

/-- A board with set readings; `none` is a read that fails. -/
structure Sensors where
  encoders : EncoderBank (Option UInt32) := .fill (some 16777216)
  thermistors : Triple (Option UInt16) := .fill (some 1500)
  motorVoltage : Option UInt16 := some 2800
  logicVoltage : Option UInt16 := some 3000
  limitSwitches : Option UInt8 := some 0
  amplifierFault : Option Bool := some false
  /-- Whether switching the amplifier on is accepted. -/
  enableAccepted : Bool := true
  /-- Whether switching the amplifier off is accepted. -/
  disableAccepted : Bool := true
  currentAccepted : Bool := true
  imuSyncAccepted : Bool := true
  /-- The bytes of every read of the inertial sensor. -/
  frame : Option (List UInt8) := some []
  /-- Recorded calls, newest first. -/
  calls : List Call := []
  /-- What was reported, newest first. -/
  reported : List Event := []
  /-- The first failed run-time check. -/
  trapped : Option Trap := none

namespace Sensors

/-- Records a call. -/
def record (s : Sensors) (call : Call) : Sensors :=
  { s with calls := call :: s.calls }

/-- The result of a read that was set. -/
def reading {α : Type} (value : Option α) (name : String) : Except HardwareError α :=
  match value with
  | some a => .ok a
  | none => .error (.sensorFault name)

/-- The result of a command. -/
def answer (accepted : Bool) (refusal : HardwareError) : Except HardwareError Unit :=
  if accepted then .ok () else .error refusal

/-- The reading set for an analog channel. -/
def analog (s : Sensors) : AnalogChannel → Option UInt16
  | .thermistor index => (s.thermistors.get? index.toNat).join
  | .motorVoltage => s.motorVoltage
  | .logicVoltage => s.logicVoltage

instance : Hardware Sensors where
  note e s := { s with reported := e :: s.reported }
  trap t s := { s with trapped := s.trapped.or (some t) }
  readEncoder channel s :=
    (reading (s.encoders.get channel) channel.name, s.record (.encoder channel))
  readAnalog channel s := (reading (s.analog channel) channel.name, s.record (.analog channel))
  readLimitSwitches s := (reading s.limitSwitches "limit", s.record .limitSwitches)
  setAmplifier enabled s :=
    let call := Call.amplifier enabled
    (answer (if enabled then s.enableAccepted else s.disableAccepted) (.setupFailed call.render),
      s.record call)
  setCurrent value s :=
    (answer s.currentAccepted (.actuatorFault "current"), s.record (.current value))
  readAmplifierFault s := (reading s.amplifierFault "amp_fault", s.record .amplifierFault)
  pulseImu s := (answer s.imuSyncAccepted (.actuatorFault "imu_sync"), s.record .imuSync)
  readImu capacity s := (reading (s.frame.map (·.take capacity)) "imu_read", s.record .imuRead)

end Sensors

/-- A board that supports nothing. -/
structure Bare where
  /-- What was reported, newest first. -/
  reported : List Event := []
  /-- The first failed run-time check. -/
  trapped : Option Trap := none

instance : Hardware Bare where
  note e b := { b with reported := e :: b.reported }
  trap t b := { b with trapped := b.trapped.or (some t) }

end FieldbusNode.Bench
