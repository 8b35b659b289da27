/-
The device of a node.

A device is chosen once, by the identity, and used through the functions here.
A device and its board together are a `Plant`, which is how the state machine
sees them.
-/
import FieldbusNode.Actuator.Monitor
import FieldbusNode.Device.Boom
import FieldbusNode.Device.Imu
import FieldbusNode.Duration
import FieldbusNode.Machine
namespace FieldbusNode

/-- A device of one of the four kinds. -/
inductive Device
  | actuator (joint : Joint) (monitor : Actuator.Monitor)
  | boom (unit : Boom)
  | imu (unit : Imu)
  deriving DecidableEq

/-- Sampling offset from the edge in microseconds, at most the largest 16-bit number. -/
def timestepOfNanos (nanos : Nat) : UInt16 :=
  UInt16.ofNat (min (Duration.toMicros nanos) uint16Max)

namespace Device

/-- A fresh device of a kind. -/
def ofKind (kind : Kind) (limits : Limits) : Device :=
  match kind with
  | .leg => .actuator .leg (.ofLimits limits Joint.leg.motorEncoder)
  | .hip => .actuator .hip (.ofLimits limits Joint.hip.motorEncoder)
  | .boom => .boom (.ofLimits limits)
  | .imu => .imu .fresh

/-- The kind of a device. -/
def kind : Device → Kind
  | .actuator joint _ => joint.kind
  | .boom _ => .boom
  | .imu _ => .imu

/-- Latched flags. -/
def flags : Device → Flags
  | .actuator _ m => m.flags
  | .boom unit => unit.flags
  | .imu unit => unit.flags

/-- Whether the sampled inputs show a hardware fault. -/
def faulty : Device → Bool
  | .actuator _ m => m.faulty
  | .boom unit => unit.faulty
  | .imu unit => unit.flags.hasFault

/-- Whether the sampled inputs ask for the halt controller. -/
def wantsHalt : Device → Bool
  | .actuator _ m => m.inHaltZone
  | .boom _ | .imu _ => false

/-- Clears every latched flag. -/
def resetError : Device → Device
  | .actuator joint m => .actuator joint m.reset
  | .boom unit => .boom { unit with flags := ∅ }
  | .imu unit => .imu unit.reset

/-- The telemetry that is there before the first cycle. -/
def firstTelemetry : Device → List ProcessData.Item
  | .actuator .leg _ => [⟨(ActuatorFields.ofJoint .leg).limitSwitches, .u8, 0⟩]
  | .actuator .hip _ | .boom _ => []
  | .imu unit => unit.telemetry Inertial.invalidSequence

section Calls

variable {β : Type} [Hardware β]

/-- Switches the outputs off, and asks an inertial sensor for its first frame. -/
def powerUp (d : Device) (b : β) : Except HardwareError Unit × β :=
  match d with
  | .actuator .. =>
    match Hardware.setAmplifier false b with
    | (.error e, b) => (.error e, b)
    | (.ok _, b) => Hardware.setCurrent 0 b
  | .boom _ => (.ok (), b)
  | .imu _ => Hardware.pulseImu b

/-- Sets the hardware up, and the telemetry that is there before the first cycle. -/
def setUp (d : Device) (data : ProcessData) (b : β) : Except HardwareError ProcessData × β :=
  match d.powerUp b with
  | (.error e, b) => (.error e, b)
  | (.ok _, b) =>
    let (data, b) := data.report d.firstTelemetry b
    (.ok data, b)

/-- Energizes the outputs. -/
def enable (d : Device) (b : β) : Device × β :=
  match d with
  | .actuator joint m =>
    let (m, b) := m.enable b
    (.actuator joint m, b)
  | other => (other, b)

/-- De-energizes the outputs. -/
def disable (d : Device) (b : β) : Device × β :=
  match d with
  | .actuator joint m =>
    let (m, b) := m.disable b
    (.actuator joint m, b)
  | other => (other, b)

/-- Emergency stop: outputs off, and the flag for it raised. -/
def estop (d : Device) (b : β) : Device × β :=
  match d with
  | .actuator joint m =>
    let (m, b) := m.estop b
    (.actuator joint m, b)
  | .boom unit => (.boom { unit with flags := unit.flags.raise .estop }, b)
  | .imu unit => (.imu unit.estop, b)

/-- Telemetry of an actuator for one sample. -/
def sampleTelemetry (joint : Joint) (s : Actuator.Sample) (timestep : UInt16) :
    List ProcessData.Item :=
  let fields := ActuatorFields.ofJoint joint
  let motor (f : Field) : ProcessData.Item := ⟨f, .u32, (s.motorPosition.getD 0).toNat⟩
  ⟨fields.limitSwitches, .u8, s.limitSwitches.toNat⟩ :: fields.motorEncoder.toList.map motor ++
    [⟨fields.outputEncoder, .u32, (s.outputPosition.getD 0).toNat⟩,
      ⟨fields.timestep, .u16, timestep.toNat⟩,
      ⟨fields.thermistors.first, .u16, s.thermistors.first.toNat⟩,
      ⟨fields.thermistors.second, .u16, s.thermistors.second.toNat⟩,
      ⟨fields.thermistors.third, .u16, s.thermistors.third.toNat⟩,
      ⟨fields.motorVoltage, .u16, s.motorVoltage.toNat⟩,
      ⟨fields.logicVoltage, .u16, s.logicVoltage.toNat⟩]

/-- Samples the inputs and writes the telemetry. -/
def updateInputs (d : Device) (sinceEdge : Nat) (data : ProcessData) (b : β) :
    Device × ProcessData × β :=
  let timestep := timestepOfNanos sinceEdge
  match d with
  | .actuator joint m =>
    let (r, b) := Actuator.Readings.collect m.motorEncoder b
    (.actuator joint (m.observe r),
      data.report (sampleTelemetry joint r.sample timestep) (Journal.noteAll (m.observeEvents r) b))
  | .boom unit =>
    let (r, b) := BoomReadings.collect b
    (.boom (unit.observe r),
      data.report (Boom.telemetry r timestep) (Journal.noteAll (unit.observeEvents r) b))
  | .imu unit =>
    let (reading, b) := Hardware.readImu Inertial.frameLength b
    let (unit, sequence, events) := unit.observe reading
    let b := Journal.trapIf unit.gapsOverflow .overflow b
    (.imu unit, data.report (unit.telemetry sequence) (Journal.noteAll events b))

/-- Applies the inbound commands to the outputs. -/
def updateOutputs (d : Device) (data : ProcessData) (b : β) : Device × β :=
  match d with
  | .actuator joint m =>
    let (_, m, b) := m.commandCurrent data.currentCommand b
    (.actuator joint m, b)
  | other => (other, b)

/-- Work behind the exchange of process data: the inertial sensor is asked for its next frame. -/
def postSync (d : Device) (b : β) : Device × β :=
  match d with
  | .imu unit =>
    match Hardware.pulseImu b with
    | (.ok _, b) => (.imu unit, b)
    | (.error e, b) => (.imu unit.transportFault, Journal.noteAll (unit.transportEvents e) b)
  | other => (other, b)

/-- One step of the halt controller, and whether it succeeded. -/
def runHalt (d : Device) (b : β) : Bool × Device × β :=
  match d with
  | .actuator joint m =>
    let (succeeded, m, b) := m.haltStep b
    (succeeded, .actuator joint m, b)
  | other => (true, other, b)

end Calls
end Device

/-- A device on its board. -/
structure Mounted (β : Type) where
  device : Device
  board : β

namespace Mounted

variable {β : Type}

/-- The mounted device after a call that may change both. -/
def ofPair (p : Device × β) : Mounted β := ⟨p.1, p.2⟩

instance [Board β] : Plant (Mounted β) where
  note e m := { m with board := Journal.note e m.board }
  trap t m := { m with board := Journal.trap t m.board }
  enableOutputs m := .ofPair (m.device.enable m.board)
  disableOutputs m := .ofPair (m.device.disable m.board)
  updateOutputs data m := .ofPair (m.device.updateOutputs data m.board)
  estop m := .ofPair (m.device.estop m.board)
  resetError m := { m with device := m.device.resetError }
  runHalt m :=
    let (succeeded, p) := m.device.runHalt m.board
    (succeeded, .ofPair p)
  faulty m := m.device.faulty
  wantsHalt m := m.device.wantsHalt
  lineAsserted m := Board.lineAsserted m.board
  assertLine m := { m with board := Board.assertLine m.board }
  releaseLine m := { m with board := Board.releaseLine m.board }

end Mounted
end FieldbusNode
