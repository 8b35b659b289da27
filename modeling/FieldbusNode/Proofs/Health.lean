/-
A clean device on a healthy board.

A board is healthy if every reading lies within its limit and nothing on it fails or is
disturbed (`SimBoard.Healthy`).  A device is clean if nothing is latched in it and its
debounce is at zero.  Sampling a healthy board leaves a clean device clean, without a
fault and out of the halt zone (`Device.Clean.sampled`), whatever the readings are and
however they change from sample to sample.
-/
import FieldbusNode.Proofs.Drive
import FieldbusNode.Proofs.Frames
import FieldbusNode.Proofs.Sampling
namespace FieldbusNode

open Simulation (SimBoard)

namespace Simulation.SimBoard

/-- Every reading is within its limit, the stop line is clear, the amplifier accepts commands and
nothing disturbs the inertial sensor. -/
structure Healthy (limits : Limits) (b : SimBoard) : Prop where
  line : b.externalStop = false
  encoders : ∀ channel, b.encoderFaults.get channel = false
  position : limits.haltPositionMin ≤ b.encoders.output ∧
    b.encoders.output ≤ limits.haltPositionMax
  thermistors : ∀ t ∈ b.thermistors.toList, t ≤ limits.thermistorMax
  motorVoltage : limits.motorVoltageMin ≤ b.motorVoltage ∧
    b.motorVoltage ≤ limits.motorVoltageMax
  logicVoltage : limits.logicVoltageMin ≤ b.logicVoltage ∧
    b.logicVoltage ≤ limits.logicVoltageMax
  switches : b.limitSwitches = 0
  amplifier : b.amplifierFault = false
  accepts : b.amplifierReject = false
  sensor : b.imu.pending = .none

instance {P : EncoderChannel → Prop} [DecidablePred P] : Decidable (∀ channel, P channel) :=
  decidable_of_iff (P .motor ∧ P .output ∧ P .boomPitch ∧ P .boomPan ∧ P .boomTilt) <| by
    constructor
    · rintro ⟨motor, output, pitch, pan, tilt⟩ (_ | _)
      all_goals assumption
    · exact fun h => ⟨h _, h _, h _, h _, h _⟩

instance (limits : Limits) (b : SimBoard) : Decidable (b.Healthy limits) :=
  decidable_of_iff (b.externalStop = false ∧ (∀ channel, b.encoderFaults.get channel = false) ∧
      (limits.haltPositionMin ≤ b.encoders.output ∧
        b.encoders.output ≤ limits.haltPositionMax) ∧
      b.thermistors.toList.all (· ≤ limits.thermistorMax) = true ∧
      (limits.motorVoltageMin ≤ b.motorVoltage ∧ b.motorVoltage ≤ limits.motorVoltageMax) ∧
      (limits.logicVoltageMin ≤ b.logicVoltage ∧ b.logicVoltage ≤ limits.logicVoltageMax) ∧
      b.limitSwitches = 0 ∧ b.amplifierFault = false ∧ b.amplifierReject = false ∧
      b.imu.pending = .none) <| by
    constructor
    · rintro ⟨line, encoders, position, thermistors, motor, logic, switches, fault, accepts, sensor⟩
      have cool (t : UInt16) (mem : t ∈ b.thermistors.toList) : t ≤ limits.thermistorMax :=
        of_decide_eq_true (List.all_eq_true.mp thermistors t mem)
      exact ⟨line, encoders, position, cool, motor, logic, switches, fault, accepts, sensor⟩
    · rintro ⟨line, encoders, position, thermistors, motor, logic, switches, fault, accepts, sensor⟩
      have cool := List.all_eq_true.mpr fun t mem => decide_eq_true (thermistors t mem)
      exact ⟨line, encoders, position, cool, motor, logic, switches, fault, accepts, sensor⟩

theorem Healthy.readEncoder {limits : Limits} {b : SimBoard} (h : b.Healthy limits)
    (channel : EncoderChannel) : b.readEncoder channel = .ok (b.encoders.get channel) :=
  if_neg (by simp [h.encoders channel])

theorem Healthy.of_wiring {limits : Limits} {b b' : SimBoard} (h : b.Healthy limits)
    (same : b'.wiring = b.wiring) : b'.Healthy limits := by
  have erased : b.wiring.Healthy limits := ⟨h.line, h.encoders, h.position, h.thermistors,
    h.motorVoltage, h.logicVoltage, h.switches, h.amplifier, h.accepts, h.sensor⟩
  rw [← same] at erased
  exact ⟨erased.line, erased.encoders, erased.position, erased.thermistors, erased.motorVoltage,
    erased.logicVoltage, erased.switches, erased.amplifier, erased.accepts, erased.sensor⟩

end Simulation.SimBoard

/-! ### Actuators -/

namespace Actuator.Monitor

variable {m : Monitor} {b : SimBoard}

/-- Nothing is latched, and the debounce of the limit switches is at zero. -/
structure Clean (m : Monitor) : Prop where
  flags : m.flags = ∅
  count : m.limitSwitch.count = 0

theorem failures_of_healthy (healthy : b.Healthy m.limits) :
    (b.actuatorReadings m.motorEncoder).failures = [] := by
  have output := healthy.readEncoder .output
  have motor := healthy.readEncoder .motor
  cases m.motorEncoder <;>
    simp [Readings.failures, SimBoard.actuatorReadings, output, motor, failure?, Triple.map]

theorem inHaltZone_of_healthy (healthy : b.Healthy m.limits) :
    (m.take (b.actuatorReadings m.motorEncoder)).inHaltZone = false := by
  have position : (m.take (b.actuatorReadings m.motorEncoder)).position =
      some b.encoders.output := by
    show value? (b.readEncoder .output) = _
    rw [healthy.readEncoder]
    rfl
  obtain ⟨low, high⟩ := healthy.position
  unfold inHaltZone
  rw [position]
  show (decide (_ < m.limits.haltPositionMin) || decide (m.limits.haltPositionMax < _)) = false
  simp [low, high]

theorem evaluate_of_healthy (clean : m.Clean) (healthy : b.Healthy m.limits) :
    (m.take (b.actuatorReadings m.motorEncoder)).evaluate = ∅ := by
  have zone := inHaltZone_of_healthy healthy
  have cool : b.thermistors.any (m.limits.thermistorMax < ·) = false := by
    have limits := healthy.thermistors
    simp only [Triple.toList, List.mem_cons, List.not_mem_nil, or_false, forall_eq_or_imp,
      forall_eq] at limits
    simp [Triple.any, limits]
  have read (channel : EncoderChannel) : value? (b.readEncoder channel) =
      some (b.encoders.get channel) := by
    rw [healthy.readEncoder]
    rfl
  have untripped : (m.limitSwitch.sample (b.limitSwitches != 0)).tripped = false := by
    simp [Debounce.tripped, Debounce.sample, healthy.switches, clean.count]
  obtain ⟨motorLow, motorHigh⟩ := healthy.motorVoltage
  obtain ⟨logicLow, logicHigh⟩ := healthy.logicVoltage
  have supply {low high v : UInt16} (above : low ≤ v) (below : v ≤ high) :
      (decide (v < low) || decide (high < v)) = false := by simp [above, below]
  have encoders : ((value? (b.readEncoder .output)).isNone || (m.motorEncoder &&
      (Option.bind (if m.motorEncoder then some (b.readEncoder .motor) else none)
        value?).isNone)) = false := by
    cases m.motorEncoder <;> simp [read]
  exact Flags.ext rfl untripped cool (supply motorLow motorHigh) (supply logicLow logicHigh)
    encoders zone healthy.amplifier

/-- **A healthy sample leaves a clean monitor clean, and shows nothing.** -/
theorem Clean.observe (clean : m.Clean) (healthy : b.Healthy m.limits) :
    (m.observe (b.actuatorReadings m.motorEncoder)).Clean ∧
      (m.observe (b.actuatorReadings m.motorEncoder)).faulty = false ∧
      (m.observe (b.actuatorReadings m.motorEncoder)).inHaltZone = false := by
  have shown := evaluate_of_healthy clean healthy
  have unfailed := failures_of_healthy healthy
  have flags : (m.observe (b.actuatorReadings m.motorEncoder)).flags = ∅ := by
    simp only [Monitor.observe, shown]
    simp only [take, unfailed, latched, List.foldl_nil, clean.flags]
    rfl
  refine ⟨⟨flags, ?_⟩, ?_, inHaltZone_of_healthy healthy⟩
  · show (m.limitSwitch.sample (b.limitSwitches != 0)).count = 0
    simp [Debounce.sample, healthy.switches, clean.count]
  · have again : (m.observe (b.actuatorReadings m.motorEncoder)).evaluate = ∅ := shown
    rw [faulty, flags, again]
    rfl

theorem Clean.reset (clean : m.Clean) : m.reset = m := by
  obtain ⟨_, _, _, ⟨count, _⟩, _, _, _⟩ := m
  obtain ⟨rfl, rfl⟩ := clean
  rfl

end Actuator.Monitor

/-! ### Devices -/

namespace Boom

variable {unit : Boom} {b : SimBoard}

theorem observe_of_healthy (healthy : b.Healthy unit.limits) (clean : unit.flags = ∅) :
    (unit.observe b.boomReadings).flags = ∅ ∧ (unit.observe b.boomReadings).faulty = false := by
  have unfailed : b.boomReadings.encoderFailures = [] := by
    simp [BoomReadings.encoderFailures, SimBoard.boomReadings, healthy.readEncoder]
  have read : Actuator.value? b.boomReadings.logicVoltage = some b.logicVoltage := rfl
  obtain ⟨low, high⟩ := healthy.logicVoltage
  have inside : (unit.observe b.boomReadings).logicOutside = false := by
    show (decide (b.logicVoltage < unit.limits.logicVoltageMin) ||
      decide (unit.limits.logicVoltageMax < b.logicVoltage)) = false
    simp [low, high]
  have flags : (unit.observe b.boomReadings).flags = ∅ := by
    have shown : Boom.logicOutside { unit with logicVoltage := some b.logicVoltage } = false := inside
    rw [clean] at shown
    simp [observe, read, unfailed, shown, clean]
  refine ⟨flags, ?_⟩
  rw [faulty, inside, flags]
  rfl

end Boom

theorem Imu.flags_observe (unit : Imu) {bytes : List UInt8} {sample : Inertial.Sample}
    (accepted : Inertial.Sample.decode (bytes.take Inertial.frameLength) = .ok sample) :
    (unit.observe (.ok bytes)).1.flags = unit.flags := by
  unfold observe store
  simp [accepted, accept]

theorem Imu.observe_of_ready {unit : Imu} {b : SimBoard} (ready : b.imu.Ready) :
    (unit.observe b.imuReading).1.flags = unit.flags := by
  obtain ⟨sample, accepted⟩ := ready
  exact unit.flags_observe (by rwa [List.take_take, Nat.min_self])

namespace Device

variable {d : Device} {limits : Limits} {b : SimBoard}

/-- Nothing is latched in a device, and its debounce, if it has one, is at zero. -/
def Clean : Device → Prop
  | .actuator _ m => m.Clean
  | .boom unit => unit.flags = ∅
  | .imu unit => unit.flags = ∅

/-- Nothing a device has sampled stands against running. -/
structure Fit (d : Device) : Prop where
  clean : d.Clean
  faulty : d.faulty = false
  wantsHalt : d.wantsHalt = false

/-- **A clean device that samples a healthy board is fit.** -/
theorem Clean.sampled (clean : d.Clean) (follows : d.Follows limits) (healthy : b.Healthy limits)
    (framed : d.kind = .imu → b.imu.Ready) : (d.sampled b).Fit := by
  cases d with
  | actuator joint m =>
      obtain ⟨rfl, -, -⟩ := follows
      obtain ⟨clean, faulty, zone⟩ := Actuator.Monitor.Clean.observe clean healthy
      exact ⟨clean, faulty, zone⟩
  | boom unit =>
      obtain rfl := follows
      obtain ⟨clean, faulty⟩ := Boom.observe_of_healthy healthy clean
      exact ⟨clean, faulty, rfl⟩
  | imu unit =>
      have kept : (unit.observe b.imuReading).1.flags = ∅ :=
        (Imu.observe_of_ready (framed rfl)).trans clean
      refine ⟨kept, ?_, rfl⟩
      show (unit.observe b.imuReading).1.flags.hasFault = false
      rw [kept]
      rfl

/-- To a fit device a reset does not matter. -/
theorem Fit.resetError (fit : d.Fit) : d.resetError.Fit := by
  obtain ⟨clean, faulty, wantsHalt⟩ := fit
  cases d with
  | actuator joint m =>
      have same : (Device.actuator joint m).resetError = .actuator joint m :=
        congrArg _ (Actuator.Monitor.Clean.reset clean)
      rw [same]
      exact ⟨clean, faulty, wantsHalt⟩
  | boom unit =>
      obtain ⟨_, flags, _⟩ := unit
      obtain rfl : flags = ∅ := clean
      exact ⟨rfl, faulty, rfl⟩
  | imu unit => exact ⟨rfl, rfl, rfl⟩

theorem Clean.enable (clean : d.Clean) (b : SimBoard) : (d.enable b).1.Clean := by
  cases d with
  | actuator joint m => exact ⟨clean.flags, clean.count⟩
  | boom | imu => exact clean

end Device

/-! ### Commanding a current -/

namespace Actuator.Monitor

variable {m : Monitor} {b : SimBoard}

/-- An amplifier that accepts commands leaves nothing to latch. -/
theorem commandCurrent_of_accepting (current : Int32) (accepts : b.amplifierReject = false) :
    (m.commandCurrent current b).2.1 = m := by
  unfold commandCurrent
  split
  · rfl
  split
  · rfl
  rw [SimBoard.setCurrent_of_accepting _ accepts]

/-- A clamp with its bounds in order draws every current between them. -/
theorem clampCurrent_eq {max : Int32} (order : 0 ≤ max.toInt) (current : Int32) :
    ∃ clamped, clampCurrent max current = .ok clamped ∧
      clamped.toInt = Max.max (-max.toInt) (Min.min max.toInt current.toInt) := by
  have least : max ≠ Int32.minValue := by
    rintro rfl
    exact absurd order (by decide)
  have sign : ¬max < 0 := by
    rw [Int32.lt_iff_toInt_lt]
    exact Int.not_lt.mpr order
  have small := max.toInt_lt
  have negated : (-max).toInt = -max.toInt := by
    rw [Int32.toInt_neg]
    exact Int.bmod_eq_of_le (by omega) (by omega)
  unfold clampCurrent
  rw [if_neg least, if_neg sign]
  simp only [Int32.lt_iff_toInt_lt, negated]
  split
  · refine ⟨_, rfl, ?_⟩
    omega
  split
  · refine ⟨_, rfl, ?_⟩
    omega
  · refine ⟨_, rfl, ?_⟩
    omega

/-- Outputs that are live carry what the clamp leaves of a current. -/
theorem commandCurrent_of_live (order : 0 ≤ m.limits.maxMotorCurrent.toInt) (current : Int32)
    (accepts : b.amplifierReject = false) (enabled : m.outputsEnabled = true)
    (live : b.amplifierEnabled = true) :
    (m.commandCurrent current b).2.2.motorCurrent.toInt =
      Max.max (-m.limits.maxMotorCurrent.toInt)
        (Min.min m.limits.maxMotorCurrent.toInt current.toInt) := by
  obtain ⟨clamped, clamp, value⟩ := clampCurrent_eq order current
  unfold commandCurrent
  rw [if_neg (by simp [enabled]), clamp]
  simp only [SimBoard.setCurrent_of_accepting clamped accepts, live, if_true]
  exact value

end Actuator.Monitor

theorem Device.Clean.updateOutputs {d : Device} {b : SimBoard} (clean : d.Clean)
    (data : ProcessData) (accepts : b.amplifierReject = false) :
    (d.updateOutputs data b).1.Clean := by
  cases d with
  | actuator joint m =>
      have kept := Actuator.Monitor.commandCurrent_of_accepting (m := m) data.currentCommand accepts
      show (m.commandCurrent data.currentCommand b).2.1.Clean
      rw [kept]
      exact clean
  | boom | imu => exact clean

end FieldbusNode
