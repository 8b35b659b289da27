/-
Where each kind of device puts its telemetry.

Fields follow the common outbound header back to back, in the order of the
structure's declaration.
-/
import FieldbusNode.Identity
import FieldbusNode.Record.Field
import FieldbusNode.Triple
namespace FieldbusNode

/-- The two actuators. -/
inductive Joint
  /-- Leg: encoders on both sides of the spring. -/
  | leg
  /-- Hip: an output-side encoder only. -/
  | hip
  deriving DecidableEq

namespace Joint

/-- The kind of a joint. -/
def kind : Joint → Kind
  | .leg => .leg
  | .hip => .hip

/-- Whether the joint has an encoder on the motor side. -/
def motorEncoder : Joint → Bool
  | .leg => true
  | .hip => false

end Joint

/-- Three fields of one width behind another field. -/
def Field.threeBehind (f : Field) (width : Nat) : Triple Field :=
  let first := f.followedBy width
  let second := first.followedBy width
  ⟨first, second, second.followedBy width⟩

/-- Telemetry fields of an actuator. -/
structure ActuatorFields where
  limitSwitches : Field
  /-- `none` if the actuator has no encoder on the motor side. -/
  motorEncoder : Option Field
  outputEncoder : Field
  timestep : Field
  thermistors : Triple Field
  motorVoltage : Field
  logicVoltage : Field

namespace ActuatorFields

/-- The fields of a joint, in order behind the header. -/
def ofJoint (joint : Joint) : ActuatorFields :=
  let limitSwitches := Outbound.errorFlags.followedBy 1
  let motorEncoder := if joint.motorEncoder then some (limitSwitches.followedBy 4) else none
  let outputEncoder := (motorEncoder.getD limitSwitches).followedBy 4
  let timestep := outputEncoder.followedBy 2
  let thermistors := timestep.threeBehind 2
  let motorVoltage := thermistors.third.followedBy 2
  { limitSwitches, motorEncoder, outputEncoder, timestep, thermistors, motorVoltage
    logicVoltage := motorVoltage.followedBy 2 }

/-- Every field, in order. -/
def toList (f : ActuatorFields) : List Field :=
  f.limitSwitches :: f.motorEncoder.toList ++ [f.outputEncoder, f.timestep] ++
    f.thermistors.toList ++ [f.motorVoltage, f.logicVoltage]

end ActuatorFields

/-- Telemetry fields of the boom. -/
structure BoomFields where
  pitch : Field
  pan : Field
  tilt : Field
  timestep : Field
  logicVoltage : Field

namespace BoomFields

/-- The fields in order behind the header. -/
def standard : BoomFields :=
  let pitch := Outbound.errorFlags.followedBy 4
  let pan := pitch.followedBy 4
  let tilt := pan.followedBy 4
  let timestep := tilt.followedBy 2
  { pitch, pan, tilt, timestep, logicVoltage := timestep.followedBy 2 }

/-- Every field, in order. -/
def toList (f : BoomFields) : List Field :=
  [f.pitch, f.pan, f.tilt, f.timestep, f.logicVoltage]

end BoomFields

/-- Telemetry fields of the inertial sensor. -/
structure ImuFields where
  angleDelta : Triple Field
  accel : Triple Field
  status : Field
  sequence : Field
  temperature : Field
  checksum : Field

namespace ImuFields

/-- The fields in order behind the header. -/
def standard : ImuFields :=
  let angleDelta := Outbound.errorFlags.threeBehind 4
  let accel := angleDelta.third.threeBehind 4
  let status := accel.third.followedBy 1
  let sequence := status.followedBy 1
  let temperature := sequence.followedBy 2
  { angleDelta, accel, status, sequence, temperature, checksum := temperature.followedBy 4 }

/-- Every field, in order. -/
def toList (f : ImuFields) : List Field :=
  f.angleDelta.toList ++ f.accel.toList ++ [f.status, f.sequence, f.temperature, f.checksum]

end ImuFields

namespace Kind

/-- Telemetry fields of a kind, in order. -/
def fields : Kind → List Field
  | .leg => (ActuatorFields.ofJoint .leg).toList
  | .hip => (ActuatorFields.ofJoint .hip).toList
  | .boom => BoomFields.standard.toList
  | .imu => ImuFields.standard.toList

/-- Record sizes of a kind.  An actuator takes a motor current behind the inbound header, the
others take the header alone. -/
def layout (kind : Kind) : Layout where
  name := kind.name
  rxSize :=
    match kind with
    | .leg | .hip => Inbound.motorCurrent.stop
    | .boom | .imu => Inbound.headerEnd
  txSize := (kind.fields.getLast?.map Field.stop).getD Outbound.headerEnd

theorem layout_valid (kind : Kind) : kind.layout.Valid := by
  cases kind <;> decide

example : leg.layout = ⟨"leg", 7, 25⟩ := by decide
example : hip.layout = ⟨"hip", 7, 21⟩ := by decide
example : boom.layout = ⟨"boom", 3, 20⟩ := by decide
example : imu.layout = ⟨"imu", 3, 36⟩ := by decide

end Kind
end FieldbusNode
