/-
Configuration of a node.

Four sections: what every program of the system shares, the device, the safety
supervisor, and the limits of an actuator.  The last two have defaults
throughout.  A value of these types has fields that fit their machine words;
whether they make sense together is the subject of `Config.Validation`.
-/
import FieldbusNode.Binary32
import FieldbusNode.Event
namespace FieldbusNode

/-- What every program of the system shares. -/
structure SharedSection where
  logLevel : Level := .info
  serviceName : String
  deriving DecidableEq

/-- Identity and timing of a node. -/
structure DeviceSection where
  id : Identity
  /-- Expected fieldbus cycle in microseconds. -/
  cycleTime : UInt32 := 1000
  /-- How long to wait for an edge before idle housekeeping, in microseconds. -/
  idlePoll : UInt32 := 500
  deriving DecidableEq

/-- Parameters of the safety supervisor. -/
structure SafetySection where
  /-- Count above which the debounced stop line is tripped. -/
  stopLineLimit : UInt32 := 5
  /-- Cycles in `error` that a reset command has to outwait. -/
  errorDwell : UInt32 := 1000
  /-- Timeout of the local watchdog in microseconds. -/
  watchdogTimeout : UInt32 := 8192
  deriving DecidableEq

instance : Inhabited SafetySection := ⟨{}⟩

/-- Limits of an actuator, in raw sensor units. -/
structure Limits where
  thermistorMax : UInt16 := 3000
  motorVoltageMin : UInt16 := 1800
  motorVoltageMax : UInt16 := 3900
  logicVoltageMin : UInt16 := 2400
  logicVoltageMax : UInt16 := 3600
  /-- Count above which the debounced limit switch is tripped. -/
  limitSwitchLimit : UInt32 := 100
  /-- Output position below which the halt zone begins. -/
  haltPositionMin : UInt32 := 20000
  /-- Output position above which the halt zone begins. -/
  haltPositionMax : UInt32 := 33534432
  /-- Gain of the halt controller, one half by default. -/
  haltDamping : Binary32 := ⟨0x3F000000⟩
  /-- Current clamp of the halt controller. -/
  haltMaxCurrent : Int32 := 5000
  /-- Current clamp of every command. -/
  maxMotorCurrent : Int32 := 30000
  deriving DecidableEq

instance : Inhabited Limits := ⟨{}⟩

/-- Configuration of a node. -/
structure Config where
  shared : SharedSection
  device : DeviceSection
  safety : SafetySection := {}
  limits : Limits := {}
  deriving DecidableEq

end FieldbusNode
