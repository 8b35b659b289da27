/-
The boom: three encoders and a logic supply, and no outputs.

An encoder that cannot be read leaves its field as it was.
-/
import FieldbusNode.Actuator.Readings
import FieldbusNode.Config
import FieldbusNode.Device.Telemetry
import FieldbusNode.ProcessData
namespace FieldbusNode

/-- State of a boom. -/
structure Boom where
  limits : Limits
  /-- Latched flags. -/
  flags : Flags
  /-- The logic supply when it was last read. -/
  logicVoltage : Option UInt16
  deriving DecidableEq

/-- The results of a boom's reads of one cycle. -/
structure BoomReadings where
  pitch : Actuator.Reading UInt32
  pan : Actuator.Reading UInt32
  tilt : Actuator.Reading UInt32
  logicVoltage : Actuator.Reading UInt16

/-- Reads every input of a boom. -/
def BoomReadings.collect {β : Type} [Hardware β] (b : β) : BoomReadings × β :=
  let (pitch, b) := Hardware.readEncoder .boomPitch b
  let (pan, b) := Hardware.readEncoder .boomPan b
  let (tilt, b) := Hardware.readEncoder .boomTilt b
  let (logicVoltage, b) := Hardware.readAnalog .logicVoltage b
  (⟨pitch, pan, tilt, logicVoltage⟩, b)

/-- The encoders that could not be read, in the order of reading. -/
def BoomReadings.encoderFailures (r : BoomReadings) : List (EncoderChannel × HardwareError) :=
  [(EncoderChannel.boomPitch, r.pitch), (.boomPan, r.pan), (.boomTilt, r.tilt)].filterMap
    fun (channel, reading) =>
      match reading with
      | .ok _ => none
      | .error e => some (channel, e)

namespace Boom

/-- Nothing latched, nothing read. -/
def ofLimits (limits : Limits) : Boom := ⟨limits, ∅, none⟩

/-- Whether the logic supply was outside its window when it was last read. -/
def logicOutside (boom : Boom) : Bool :=
  match boom.logicVoltage with
  | some v => v < boom.limits.logicVoltageMin || boom.limits.logicVoltageMax < v
  | none => false

/-- Whether the latched flags or the logic supply show a fault. -/
def faulty (boom : Boom) : Bool :=
  boom.flags.hasFault || boom.logicOutside

/-- Takes the readings of a cycle and latches what they show. -/
def observe (boom : Boom) (r : BoomReadings) : Boom :=
  let logicVoltage := (Actuator.value? r.logicVoltage).or boom.logicVoltage
  let boom := { boom with logicVoltage }
  let failed := !r.encoderFailures.isEmpty || (Actuator.value? r.logicVoltage).isNone
  let flags := if failed then boom.flags.raise .sensor else boom.flags
  { boom with flags := if boom.logicOutside then flags.raise .logicVoltage else flags }

/-- What taking the readings of a cycle reports: the first encoder failure while no sensor fault is
latched, and every failure of the supply. -/
def observeEvents (boom : Boom) (r : BoomReadings) : List Event :=
  (if boom.flags.sensor then []
    else r.encoderFailures.head?.toList.map fun (channel, e) => .boomEncoderFailed channel e) ++
    match r.logicVoltage with
    | .ok _ => []
    | .error e => [.boomVoltageFailed e]

/-- The telemetry of a cycle: what could be read, and the time of sampling. -/
def telemetry (r : BoomReadings) (timestep : UInt16) : List ProcessData.Item :=
  let fields := BoomFields.standard
  let encoder (f : Field) (reading : Actuator.Reading UInt32) : List ProcessData.Item :=
    (Actuator.value? reading).toList.map fun count => ⟨f, .u32, count.toNat⟩
  encoder fields.pitch r.pitch ++ encoder fields.pan r.pan ++ encoder fields.tilt r.tilt ++
    ⟨fields.timestep, .u16, timestep.toNat⟩ ::
      (Actuator.value? r.logicVoltage).toList.map fun v => ⟨fields.logicVoltage, .u16, v.toNat⟩

end Boom
end FieldbusNode
