/-
Supervision of an actuator.

Faults are judged on the sample of the cycle.  What the sample shows is also
latched into the flags, and stays there until `Monitor.reset`.

The halt controller damps the output velocity: the current is minus the gain
times the positions travelled since the last cycle, in 32-bit floating point,
drawn into the halt clamp and cut to an integer.  Every current then passes the
general clamp.  Either clamp has bounds in order only if its configured maximum
is not negative; a monitor that meets a negative one reports a trap.
-/
import FieldbusNode.Actuator.Readings
import FieldbusNode.Supervisor
namespace FieldbusNode.Actuator

/-- Fault detection, halt zone and amplifier of one actuator. -/
structure Monitor where
  limits : Limits
  /-- Whether the actuator has an encoder on the motor side; then its absence is a fault. -/
  motorEncoder : Bool
  /-- Latched flags. -/
  flags : Flags
  limitSwitch : Debounce
  /-- The most recent sample. -/
  sample : Option Sample
  /-- Output position of the sample before. -/
  previousPosition : Option UInt32
  outputsEnabled : Bool
  deriving DecidableEq

namespace Monitor

/-- Outputs off, nothing latched, nothing sampled. -/
def ofLimits (limits : Limits) (motorEncoder : Bool) : Monitor where
  limits
  motorEncoder
  flags := ∅
  limitSwitch := .ofLimit limits.limitSwitchLimit.toNat
  sample := none
  previousPosition := none
  outputsEnabled := false

/-- Output position of the most recent sample. -/
def position (m : Monitor) : Option UInt32 :=
  m.sample.bind (·.outputPosition)

/-! ### Judging a sample -/

/-- Whether the output position is outside the safe window. -/
def inHaltZone (m : Monitor) : Bool :=
  match m.position with
  | some p => p < m.limits.haltPositionMin || m.limits.haltPositionMax < p
  | none => false

/-- The flags a sample shows by itself. -/
def judge (m : Monitor) (s : Sample) : Flags where
  thermistor := s.thermistors.any (m.limits.thermistorMax < ·)
  motorVoltage :=
    s.motorVoltage < m.limits.motorVoltageMin || m.limits.motorVoltageMax < s.motorVoltage
  logicVoltage :=
    s.logicVoltage < m.limits.logicVoltageMin || m.limits.logicVoltageMax < s.logicVoltage
  sensor := s.outputPosition.isNone || (m.motorEncoder && s.motorPosition.isNone)
  amplifier := s.amplifierFault
  limitSwitch := m.limitSwitch.tripped
  halt := m.inHaltZone

/-- The flags the most recent sample shows by itself. -/
def evaluate (m : Monitor) : Flags :=
  match m.sample with
  | some s => m.judge s
  | none => ∅

/-- Whether the latched flags or the sample show a hardware fault. -/
def faulty (m : Monitor) : Bool :=
  (m.flags.union m.evaluate).hasFault

/-! ### Sampling -/

/-- The flags after failed hardware calls. -/
def latched (flags : Flags) (failures : List (Flag × HardwareError)) : Flags :=
  failures.foldl (fun flags f => flags.raise f.1) flags

/-- What failed hardware calls report: each that raises a new flag. -/
def latchEvents : Flags → List (Flag × HardwareError) → List Event
  | _, [] => []
  | flags, (flag, e) :: rest =>
    (if flags.has flag then [] else [.actuatorFault flag e]) ++ latchEvents (flags.raise flag) rest

/-- The monitor with a new sample, before the faults the sample shows are latched. -/
def take (m : Monitor) (r : Readings) : Monitor :=
  let s := r.sample
  { m with
    flags := latched m.flags r.failures
    limitSwitch := m.limitSwitch.sample (s.limitSwitches != 0)
    sample := some s
    previousPosition := m.position }

/-- Takes the readings of a cycle and latches what they show. -/
def observe (m : Monitor) (r : Readings) : Monitor :=
  let taken := m.take r
  { taken with flags := taken.flags.union taken.evaluate }

/-- What taking the readings of a cycle reports. -/
def observeEvents (m : Monitor) (r : Readings) : List Event :=
  let taken := m.take r
  let faults := taken.evaluate
  latchEvents m.flags r.failures ++
    if !faults.isEmpty && !taken.flags.contains faults then [.faultsLatched faults] else []

/-- Clears the latched flags and the limit-switch debounce. -/
def reset (m : Monitor) : Monitor :=
  { m with flags := ∅, limitSwitch := m.limitSwitch.reset }

/-! ### Outputs -/

section Outputs

variable {β : Type} [Hardware β]

/-- Latches a failed hardware call and reports it if the flag is new. -/
def latch (m : Monitor) (flag : Flag) (e : HardwareError) (b : β) : Monitor × β :=
  ({ m with flags := m.flags.raise flag },
    Journal.noteIf (!m.flags.has flag) (.actuatorFault flag e) b)

/-- Switches the amplifier on. -/
def enable (m : Monitor) (b : β) : Monitor × β :=
  match Hardware.setAmplifier true b with
  | (.ok _, b) => ({ m with outputsEnabled := true }, b)
  | (.error e, b) => m.latch .amplifier e b

/-- Switches the amplifier off. -/
def disable (m : Monitor) (b : β) : Monitor × β :=
  let m := { m with outputsEnabled := false }
  match Hardware.setAmplifier false b with
  | (.ok _, b) => (m, b)
  | (.error e, b) => m.latch .amplifier e b

/-- Switches the amplifier off and marks the emergency stop. -/
def estop (m : Monitor) (b : β) : Monitor × β :=
  let (m, b) := m.disable b
  ({ m with flags := m.flags.raise .estop }, b)

/-- A current drawn into the general clamp; a negative maximum leaves no window. -/
def clampCurrent (max : Int32) (current : Int32) : Except Trap Int32 :=
  if max = Int32.minValue then .error .overflow
  else if max < 0 then .error .clampBounds
  else if current < -max then .ok (-max)
  else if max < current then .ok max
  else .ok current

/-- Commands a current, and says whether the amplifier took it.  Disabled outputs take anything. -/
def commandCurrent (m : Monitor) (current : Int32) (b : β) : Bool × Monitor × β :=
  if !m.outputsEnabled then (true, m, b)
  else
    match clampCurrent m.limits.maxMotorCurrent current with
    | .error t => (true, m, Journal.trap t b)
    | .ok current =>
      match Hardware.setCurrent current b with
      | (.ok _, b) => (true, m, b)
      | (.error e, b) => (false, m.latch .amplifier e b)

/-- The current of the halt controller for two positions one cycle apart. -/
def haltCurrent (limits : Limits) (now before : UInt32) : Except Trap Int32 :=
  let max := Binary.binary32.ofInt limits.haltMaxCurrent.toInt
  let velocity := Binary.binary32.ofInt ((now.toNat : Int) - before.toNat)
  let damping := (Binary.binary32.multiply limits.haltDamping.value velocity).negate
  if max.less max.negate then .error .clampBounds
  else .ok (damping.clamp max.negate max).toInt32

/-- One step of the halt controller.  It gives up if a hardware fault is latched, and commands no
current while it has not seen two positions in a row. -/
def haltStep (m : Monitor) (b : β) : Bool × Monitor × β :=
  if m.flags.hasFault then (false, m, b)
  else
    match m.position, m.previousPosition with
    | some now, some before =>
      match haltCurrent m.limits now before with
      | .error t => (true, m, Journal.trap t b)
      | .ok current => m.commandCurrent current b
    | _, _ => m.commandCurrent 0 b

end Outputs
end Monitor
end FieldbusNode.Actuator
