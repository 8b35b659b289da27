/-
Reading a configuration from a document.

Keys that are not asked for are ignored, unless there is a bad number under one.
Nothing is checked here but kinds and machine words; what the values mean together
is for `Config.Validation`.
-/
import FieldbusNode.Config
import FieldbusNode.Config.Document
namespace FieldbusNode

open Document

/-- Reads the section that every program shares. -/
def SharedSection.ofDocument? (d : Dialect) (doc : Document) : Option SharedSection := do
  let field ← doc.fields? d ["log_level", "service_name"]
  let logLevel ← optional (level? d) .info (field "log_level")
  let serviceName ← required text? (field "service_name")
  return { logLevel, serviceName }

/-- Reads the section of the device. -/
def DeviceSection.ofDocument? (d : Dialect) (doc : Document) : Option DeviceSection := do
  let field ← doc.fields? d ["id", "cycle_time_us", "idle_poll_us"]
  let id ← required uint8? (field "id")
  let cycleTime ← optional uint32? 1000 (field "cycle_time_us")
  let idlePoll ← optional uint32? 500 (field "idle_poll_us")
  return { id := ⟨id⟩, cycleTime, idlePoll }

/-- Reads the section of the safety supervisor. -/
def SafetySection.ofDocument? (d : Dialect) (doc : Document) : Option SafetySection := do
  let field ← doc.fields? d
    ["estop_debounce_limit", "estop_timeout_length", "local_watchdog_timeout_us"]
  let default : SafetySection := {}
  let stopLineLimit ← optional uint32? default.stopLineLimit (field "estop_debounce_limit")
  let errorDwell ← optional uint32? default.errorDwell (field "estop_timeout_length")
  let watchdogTimeout ←
    optional uint32? default.watchdogTimeout (field "local_watchdog_timeout_us")
  return { stopLineLimit, errorDwell, watchdogTimeout }

/-- Reads the section of the actuator limits. -/
def Limits.ofDocument? (d : Dialect) (doc : Document) : Option Limits := do
  let field ← doc.fields? d
    ["thermistor_max", "motor_voltage_min", "motor_voltage_max", "logic_voltage_min",
      "logic_voltage_max", "limit_switch_debounce", "halt_position_min", "halt_position_max",
      "halt_damping", "halt_max_current", "max_motor_current"]
  let default : Limits := {}
  let thermistorMax ← optional uint16? default.thermistorMax (field "thermistor_max")
  let motorVoltageMin ← optional uint16? default.motorVoltageMin (field "motor_voltage_min")
  let motorVoltageMax ← optional uint16? default.motorVoltageMax (field "motor_voltage_max")
  let logicVoltageMin ← optional uint16? default.logicVoltageMin (field "logic_voltage_min")
  let logicVoltageMax ← optional uint16? default.logicVoltageMax (field "logic_voltage_max")
  let limitSwitchLimit ← optional uint32? default.limitSwitchLimit (field "limit_switch_debounce")
  let haltPositionMin ← optional uint32? default.haltPositionMin (field "halt_position_min")
  let haltPositionMax ← optional uint32? default.haltPositionMax (field "halt_position_max")
  let haltDamping ← optional binary32? default.haltDamping (field "halt_damping")
  let haltMaxCurrent ← optional int32? default.haltMaxCurrent (field "halt_max_current")
  let maxMotorCurrent ← optional int32? default.maxMotorCurrent (field "max_motor_current")
  return {
    thermistorMax, motorVoltageMin, motorVoltageMax, logicVoltageMin, logicVoltageMax
    limitSwitchLimit, haltPositionMin, haltPositionMax, haltDamping, haltMaxCurrent
    maxMotorCurrent }

/-- Reads a configuration.  The sections of the supervisor and of the limits may be absent. -/
def Config.ofDocument? (d : Dialect) (doc : Document) : Option Config := do
  let field ← doc.fields? d ["shared", "device", "safety", "limits"]
  let shared ← required (SharedSection.ofDocument? d) (field "shared")
  let device ← required (DeviceSection.ofDocument? d) (field "device")
  let safety ← optional (SafetySection.ofDocument? d) {} (field "safety")
  let limits ← optional (Limits.ofDocument? d) {} (field "limits")
  return { shared, device, safety, limits }

end FieldbusNode
