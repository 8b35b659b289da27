/-
What a configuration has to satisfy.

Every section is a list of demands, and the configuration is the four lists one
after another.  The first demand that is not met is the one that is reported.
`Config.Valid` says the same without an order, and `violation?_eq_none_iff` is
the agreement of the two.
-/
import FieldbusNode.Config
namespace FieldbusNode

/-- Settings that have to lie in a range. -/
inductive RangedSetting
  | cycleTime
  | idlePoll
  | stopLineLimit
  | errorDwell
  | limitSwitchLimit
  deriving DecidableEq

/-- Name of a setting, section first. -/
def RangedSetting.name : RangedSetting → String
  | .cycleTime => "device.cycle_time_us"
  | .idlePoll => "device.idle_poll_us"
  | .stopLineLimit => "safety.estop_debounce_limit"
  | .errorDwell => "safety.estop_timeout_length"
  | .limitSwitchLimit => "limits.limit_switch_debounce"

/-- The supplies that are supervised. -/
inductive Supply
  | motor
  | logic
  deriving DecidableEq

/-- Name of the window of a supply. -/
def Supply.name : Supply → String
  | .motor => "limits.motor_voltage"
  | .logic => "limits.logic_voltage"

/-- A demand that is not met. -/
inductive Violation
  | namelessService
  | outOfRange (setting : RangedSetting) (value low high : Nat)
  /-- The local watchdog does not outlast a cycle. -/
  | watchdogTooShort (timeout cycle : Nat)
  | emptyWindow (supply : Supply) (low high : Nat)
  /-- No output position is outside the halt zone. -/
  | emptyHaltWindow
  /-- The damping is negative, infinite or not a number. -/
  | badDamping
  | clampsNotPositive
  | haltClampTooLarge
  deriving DecidableEq

/-- The wording of a violation. -/
def Violation.message : Violation → String
  | .namelessService => "service_name cannot be empty"
  | .outOfRange setting value low high =>
    setting.name ++ " = " ++ toString value ++ " outside [" ++ toString low ++ ", " ++
      toString high ++ "]"
  | .watchdogTooShort timeout cycle =>
    "safety.local_watchdog_timeout_us (" ++ toString timeout ++ ") must exceed cycle_time_us (" ++
      toString cycle ++ ")"
  | .emptyWindow supply low high =>
    supply.name ++ ": min (" ++ toString low ++ ") must be below max (" ++ toString high ++ ")"
  | .emptyHaltWindow => "limits.halt_position_min must be below halt_position_max"
  | .badDamping => "limits.halt_damping must be finite and non-negative"
  | .clampsNotPositive => "limits current clamps must be positive"
  | .haltClampTooLarge => "limits.halt_max_current exceeds max_motor_current"

/-- The violation of a demand, if it is not met. -/
def demand (met : Prop) [Decidable met] (v : Violation) : List Violation :=
  if met then [] else [v]

@[simp] theorem demand_eq_nil_iff (met : Prop) [Decidable met] (v : Violation) :
    demand met v = [] ↔ met := by
  simp [demand]

/-- The violation of a range, if the value is outside. -/
def demandRange (setting : RangedSetting) (value low high : Nat) : List Violation :=
  demand (low ≤ value ∧ value ≤ high) (.outOfRange setting value low high)

@[simp] theorem demandRange_eq_nil_iff (setting : RangedSetting) (value low high : Nat) :
    demandRange setting value low high = [] ↔ low ≤ value ∧ value ≤ high := by
  simp [demandRange]

/-! ### Demands of a section, in order -/

namespace SharedSection

/-- The service has a name. -/
structure Valid (s : SharedSection) : Prop where
  named : s.serviceName ≠ ""

/-- Every demand that is not met. -/
def violations (s : SharedSection) : List Violation :=
  demand (s.serviceName ≠ "") .namelessService

theorem violations_eq_nil_iff (s : SharedSection) : s.violations = [] ↔ s.Valid := by
  simp only [violations, demand_eq_nil_iff]
  exact ⟨fun h => ⟨h⟩, fun h => h.named⟩

end SharedSection

namespace DeviceSection

/-- Cycle time and idle poll are in their ranges; an idle poll is no longer than a cycle. -/
structure Valid (s : DeviceSection) : Prop where
  cycleTime : 100 ≤ s.cycleTime.toNat ∧ s.cycleTime.toNat ≤ 20000
  idlePoll : 10 ≤ s.idlePoll.toNat ∧ s.idlePoll.toNat ≤ s.cycleTime.toNat

/-- Every demand that is not met. -/
def violations (s : DeviceSection) : List Violation :=
  demandRange .cycleTime s.cycleTime.toNat 100 20000 ++
    demandRange .idlePoll s.idlePoll.toNat 10 s.cycleTime.toNat

theorem violations_eq_nil_iff (s : DeviceSection) : s.violations = [] ↔ s.Valid := by
  simp only [violations, List.append_eq_nil_iff, demandRange_eq_nil_iff]
  exact ⟨fun ⟨a, b⟩ => ⟨a, b⟩, fun ⟨a, b⟩ => ⟨a, b⟩⟩

end DeviceSection

namespace SafetySection

/-- The limits are in their ranges, and the watchdog outlasts a cycle. -/
structure Valid (s : SafetySection) (cycleTime : Nat) : Prop where
  stopLineLimit : 1 ≤ s.stopLineLimit.toNat ∧ s.stopLineLimit.toNat ≤ 1000
  errorDwell : 1 ≤ s.errorDwell.toNat ∧ s.errorDwell.toNat ≤ 600000
  watchdog : cycleTime < s.watchdogTimeout.toNat

/-- Every demand that is not met under a cycle time. -/
def violations (s : SafetySection) (cycleTime : Nat) : List Violation :=
  demandRange .stopLineLimit s.stopLineLimit.toNat 1 1000 ++
    demandRange .errorDwell s.errorDwell.toNat 1 600000 ++
    demand (cycleTime < s.watchdogTimeout.toNat)
      (.watchdogTooShort s.watchdogTimeout.toNat cycleTime)

theorem violations_eq_nil_iff (s : SafetySection) (cycleTime : Nat) :
    s.violations cycleTime = [] ↔ s.Valid cycleTime := by
  simp only [violations, List.append_eq_nil_iff, demandRange_eq_nil_iff, demand_eq_nil_iff]
  exact ⟨fun ⟨⟨a, b⟩, c⟩ => ⟨a, b, c⟩, fun ⟨a, b, c⟩ => ⟨⟨a, b⟩, c⟩⟩

end SafetySection

namespace Limits

/-- Whether the halt damping is a number, not infinite, and not below zero.  Minus zero will do. -/
def dampingUsable (l : Limits) : Bool :=
  let damping := l.haltDamping.value
  damping.isFinite && !damping.less (.finite false 0 0)

/-- The windows are not empty, the damping is usable, and the clamps are in order. -/
structure Valid (l : Limits) : Prop where
  motorWindow : l.motorVoltageMin < l.motorVoltageMax
  logicWindow : l.logicVoltageMin < l.logicVoltageMax
  haltWindow : l.haltPositionMin < l.haltPositionMax
  limitSwitchLimit : 1 ≤ l.limitSwitchLimit.toNat ∧ l.limitSwitchLimit.toNat ≤ 10000
  damping : l.dampingUsable = true
  haltClamp : 0 < l.haltMaxCurrent.toInt
  clamp : l.haltMaxCurrent.toInt ≤ l.maxMotorCurrent.toInt

/-- The violation of a supply's window, if it is empty. -/
def demandWindow (supply : Supply) (low high : UInt16) : List Violation :=
  demand (low < high) (.emptyWindow supply low.toNat high.toNat)

/-- Every demand that is not met. -/
def violations (l : Limits) : List Violation :=
  demandWindow .motor l.motorVoltageMin l.motorVoltageMax ++
    demandWindow .logic l.logicVoltageMin l.logicVoltageMax ++
    demand (l.haltPositionMin < l.haltPositionMax) .emptyHaltWindow ++
    demandRange .limitSwitchLimit l.limitSwitchLimit.toNat 1 10000 ++
    demand (l.dampingUsable = true) .badDamping ++
    demand (0 < l.haltMaxCurrent.toInt ∧ 0 < l.maxMotorCurrent.toInt) .clampsNotPositive ++
    demand (l.haltMaxCurrent.toInt ≤ l.maxMotorCurrent.toInt) .haltClampTooLarge

theorem violations_eq_nil_iff (l : Limits) : l.violations = [] ↔ l.Valid := by
  simp only [violations, demandWindow, List.append_eq_nil_iff, demandRange_eq_nil_iff,
    demand_eq_nil_iff]
  constructor
  · rintro ⟨⟨⟨⟨⟨⟨a, b⟩, c⟩, d⟩, e⟩, f⟩, g⟩
    exact ⟨a, b, c, d, e, f.1, g⟩
  · rintro ⟨a, b, c, d, e, f, g⟩
    exact ⟨⟨⟨⟨⟨⟨a, b⟩, c⟩, d⟩, e⟩, f, Int.lt_of_lt_of_le f g⟩, g⟩

end Limits

/-! ### The whole configuration -/

namespace Config

/-- Every section meets its demands. -/
structure Valid (c : Config) : Prop where
  shared : c.shared.Valid
  device : c.device.Valid
  safety : c.safety.Valid c.device.cycleTime.toNat
  limits : c.limits.Valid

/-- Every demand that is not met, section after section. -/
def violations (c : Config) : List Violation :=
  c.shared.violations ++ c.device.violations ++
    c.safety.violations c.device.cycleTime.toNat ++ c.limits.violations

/-- The first demand that is not met. -/
def violation? (c : Config) : Option Violation :=
  c.violations.head?

theorem violation?_eq_none_iff (c : Config) : c.violation? = none ↔ c.Valid := by
  simp only [violation?, List.head?_eq_none_iff, violations, List.append_eq_nil_iff,
    SharedSection.violations_eq_nil_iff, DeviceSection.violations_eq_nil_iff,
    SafetySection.violations_eq_nil_iff, Limits.violations_eq_nil_iff]
  exact ⟨fun ⟨⟨⟨a, b⟩, c⟩, d⟩ => ⟨a, b, c, d⟩, fun ⟨a, b, c, d⟩ => ⟨⟨⟨a, b⟩, c⟩, d⟩⟩

instance (c : Config) : Decidable c.Valid :=
  decidable_of_iff _ c.violation?_eq_none_iff

end Config
end FieldbusNode
