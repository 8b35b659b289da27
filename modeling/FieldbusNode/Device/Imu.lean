/-
The inertial measurement unit.

Every cycle reads the frame asked for in the cycle before and republishes it.
A frame that is rejected raises the sensor flag; the last good sample is then
published again under the invalid sequence number.

Received bytes go to the front of a buffer that is kept from cycle to cycle.
Only the part that was received is decoded.
-/
import FieldbusNode.Device.Telemetry
import FieldbusNode.Hardware
import FieldbusNode.ProcessData
import FieldbusNode.Word
namespace FieldbusNode

/-- State of an inertial measurement unit. -/
structure Imu where
  /-- Latched flags. -/
  flags : Flags
  /-- Bytes received last, in front of what earlier frames left. -/
  buffer : List UInt8
  /-- The last accepted sample. -/
  lastGood : Inertial.Sample
  /-- The checksum of the last accepted frame. -/
  lastChecksum : UInt32
  /-- The sequence number the next frame should have, if one was accepted since the last reset. -/
  expected : Option UInt8
  /-- Frames the sensor skipped, over all gaps; the sum has to fit 64 bits. -/
  sequenceGaps : Nat
  framesRejected : Nat
  deriving DecidableEq

namespace Imu

/-- Nothing received. -/
def fresh : Imu where
  flags := ∅
  buffer := List.replicate Inertial.frameLength 0
  lastGood := .zero
  lastChecksum := 0
  expected := none
  sequenceGaps := 0
  framesRejected := 0

/-- The sequence number behind another; the sensor counts to 127. -/
def nextSequence (sequence : UInt8) : UInt8 :=
  (sequence + 1) &&& 0x7F

/-- Frames between the expected sequence number and the one that came. -/
def skipped (expected sequence : UInt8) : UInt8 :=
  (sequence - expected) &&& 0x7F

/-- The gap a sequence number shows: what was expected and how many frames are missing. -/
def gap? (imu : Imu) (sequence : UInt8) : Option (UInt8 × UInt8) :=
  match imu.expected with
  | some expected =>
    if expected = sequence then none else some (expected, skipped expected sequence)
  | none => none

/-- Latches a failed transfer. -/
def transportFault (imu : Imu) : Imu :=
  { imu with flags := imu.flags.raise .sensor }

/-- What a failed transfer reports, unless a sensor fault is latched already. -/
def transportEvents (imu : Imu) (e : HardwareError) : List Event :=
  if imu.flags.sensor then [] else [.imuTransportFault e]

/-- Puts received bytes into the buffer. -/
def store (imu : Imu) (bytes : List UInt8) : Imu :=
  { imu with buffer := bytes ++ imu.buffer.drop bytes.length }

/-- Takes a sample that was accepted. -/
def accept (imu : Imu) (s : Inertial.Sample) (checksum : UInt32) : Imu :=
  { imu with
    sequenceGaps := imu.sequenceGaps + ((imu.gap? s.sequence).map (·.2.toNat)).getD 0
    expected := some (nextSequence s.sequence)
    lastGood := s
    lastChecksum := checksum }

/-- Notes that a frame was rejected. -/
def reject (imu : Imu) : Imu :=
  { imu with framesRejected := imu.framesRejected + 1, flags := imu.flags.raise .sensor }

/-- The telemetry of a cycle: the last good sample under a sequence number. -/
def telemetry (imu : Imu) (sequence : UInt8) : List ProcessData.Item :=
  let fields := ImuFields.standard
  let s := imu.lastGood
  let words (places : Triple Field) (values : Triple UInt32) : List ProcessData.Item :=
    (places.toList.zip values.toList).map fun (f, word) => ⟨f, .u32, word.toNat⟩
  words fields.angleDelta s.angleDelta ++ words fields.accel s.accel ++
    [⟨fields.status, .u8, s.status.toNat⟩, ⟨fields.sequence, .u8, sequence.toNat⟩,
      ⟨fields.temperature, .i16, s.temperature.toInt⟩,
      ⟨fields.checksum, .u32, imu.lastChecksum.toNat⟩]

/-- Takes the result of reading the sensor: the unit, what to publish as sequence number, and what
there is to report. -/
def observe (imu : Imu) (reading : Except HardwareError (List UInt8)) :
    Imu × UInt8 × List Event :=
  let (received, imu, events) :=
    match reading with
    | .ok bytes =>
      let bytes := bytes.take Inertial.frameLength
      (bytes.length, imu.store bytes, [])
    | .error e => (0, imu.transportFault, imu.transportEvents e)
  let frame := imu.buffer.take received
  match Inertial.Sample.decode frame with
  | .ok s =>
    let gap := (imu.gap? s.sequence).toList.map fun (expected, skipped) =>
      .imuSequenceGap expected s.sequence skipped
    let checksum := Inertial.checksum (frame.take Inertial.checksumSpan)
    (imu.accept s checksum, s.sequence, events ++ gap)
  | .error e =>
    let rejection := if imu.flags.sensor then [] else [.imuFrameRejected e]
    (imu.reject, Inertial.invalidSequence, events ++ rejection)

/-- More frames were skipped than can be counted. -/
def gapsOverflow (imu : Imu) : Bool :=
  uint64Max < imu.sequenceGaps

/-- Clears the flags and forgets the expected sequence number. -/
def reset (imu : Imu) : Imu :=
  { imu with flags := ∅, expected := none }

/-- Marks the emergency stop. -/
def estop (imu : Imu) : Imu :=
  { imu with flags := imu.flags.raise .estop }

end Imu
end FieldbusNode
