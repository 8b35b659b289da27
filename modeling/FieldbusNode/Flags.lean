/-
Error flags of a node.

A set of flags is a record of eight Booleans.  On the wire it is one byte, and
all eight bits of the byte have a meaning, so nothing is lost either way
(`ofByte_toByte`, `toByte_ofByte`).
-/
namespace FieldbusNode

/-- One error flag. -/
inductive Flag
  /-- Stop line asserted, or the device's own emergency stop was carried out. -/
  | estop
  /-- Debounced limit switch tripped. -/
  | limitSwitch
  /-- Motor over temperature. -/
  | thermistor
  /-- Motor supply outside its window. -/
  | motorVoltage
  /-- Logic supply outside its window. -/
  | logicVoltage
  /-- A sensor read failed, or a sensor frame was corrupt. -/
  | sensor
  /-- Output position near the hard stops. -/
  | halt
  /-- The amplifier reported a fault or refused a command. -/
  | amplifier
  deriving DecidableEq

namespace Flag

/-- Every flag, lowest bit first. -/
def all : List Flag :=
  [.estop, .limitSwitch, .thermistor, .motorVoltage, .logicVoltage, .sensor, .halt, .amplifier]

/-- Name used in diagnostics. -/
def name : Flag → String
  | .estop => "ESTOP"
  | .limitSwitch => "LIMIT_SWITCH"
  | .thermistor => "THERMISTOR"
  | .motorVoltage => "MOTOR_VOLTAGE"
  | .logicVoltage => "LOGIC_VOLTAGE"
  | .sensor => "SENSOR"
  | .halt => "HALT"
  | .amplifier => "AMPLIFIER"

end Flag

/-- A set of error flags. -/
@[ext] structure Flags where
  estop : Bool := false
  limitSwitch : Bool := false
  thermistor : Bool := false
  motorVoltage : Bool := false
  logicVoltage : Bool := false
  sensor : Bool := false
  halt : Bool := false
  amplifier : Bool := false
  deriving DecidableEq

namespace Flags

instance : EmptyCollection Flags := ⟨{}⟩

instance : Inhabited Flags := ⟨∅⟩

/-- Whether a flag is in the set. -/
def has (f : Flags) : Flag → Bool
  | .estop => f.estop
  | .limitSwitch => f.limitSwitch
  | .thermistor => f.thermistor
  | .motorVoltage => f.motorVoltage
  | .logicVoltage => f.logicVoltage
  | .sensor => f.sensor
  | .halt => f.halt
  | .amplifier => f.amplifier

/-- The set whose members are given by a test. -/
def ofTest (p : Flag → Bool) : Flags where
  estop := p .estop
  limitSwitch := p .limitSwitch
  thermistor := p .thermistor
  motorVoltage := p .motorVoltage
  logicVoltage := p .logicVoltage
  sensor := p .sensor
  halt := p .halt
  amplifier := p .amplifier

/-- The set of one flag. -/
def single (flag : Flag) : Flags :=
  ofTest (decide <| · = flag)

/-- Flags in either set. -/
def union (f g : Flags) : Flags :=
  ofTest fun flag => f.has flag || g.has flag

/-- Flags in both sets. -/
def inter (f g : Flags) : Flags :=
  ofTest fun flag => f.has flag && g.has flag

/-- Flags of the first set that are not in the second. -/
def diff (f g : Flags) : Flags :=
  ofTest fun flag => f.has flag && !g.has flag

/-- Flags that are not in the set. -/
def complement (f : Flags) : Flags :=
  ofTest fun flag => !f.has flag

/-- Adds one flag. -/
def raise (f : Flags) (flag : Flag) : Flags :=
  f.union (single flag)

/-- Whether every flag of the second set is in the first. -/
def contains (f g : Flags) : Bool :=
  Flag.all.all fun flag => !g.has flag || f.has flag

/-- Whether the sets share a flag. -/
def intersects (f g : Flags) : Bool :=
  Flag.all.any fun flag => f.has flag && g.has flag

/-- Whether the set has no flag. -/
def isEmpty (f : Flags) : Bool :=
  f == ∅

/-- The flags that stand for a hardware fault: all but the emergency stop and the halt zone. -/
def faultMask : Flags where
  limitSwitch := true
  thermistor := true
  motorVoltage := true
  logicVoltage := true
  sensor := true
  amplifier := true

/-- Whether a hardware fault is among the flags. -/
def hasFault (f : Flags) : Bool :=
  f.intersects faultMask

/-- The flags of the set, lowest bit first. -/
def toList (f : Flags) : List Flag :=
  Flag.all.filter f.has

/-- The set as the byte of the process-data header, one bit a flag. -/
def toByte (f : Flags) : UInt8 :=
  f.estop.toUInt8 + 2 * f.limitSwitch.toUInt8 + 4 * f.thermistor.toUInt8 +
    8 * f.motorVoltage.toUInt8 + 16 * f.logicVoltage.toUInt8 + 32 * f.sensor.toUInt8 +
    64 * f.halt.toUInt8 + 128 * f.amplifier.toUInt8

/-- The set a header byte stands for. -/
def ofByte (byte : UInt8) : Flags where
  estop := byte.toNat.testBit 0
  limitSwitch := byte.toNat.testBit 1
  thermistor := byte.toNat.testBit 2
  motorVoltage := byte.toNat.testBit 3
  logicVoltage := byte.toNat.testBit 4
  sensor := byte.toNat.testBit 5
  halt := byte.toNat.testBit 6
  amplifier := byte.toNat.testBit 7

/-- Text used in diagnostics: the names joined by bars, or the bare number of the empty set. -/
def render (f : Flags) : String :=
  let names := f.toList.map Flag.name
  "ErrorFlags(" ++ (if names.isEmpty then "0x0" else " | ".intercalate names) ++ ")"

/-! ### Membership -/

@[simp] theorem has_ofTest (p : Flag → Bool) (flag : Flag) : (ofTest p).has flag = p flag := by
  cases flag <;> rfl

@[simp] theorem has_empty (flag : Flag) : (∅ : Flags).has flag = false := by
  cases flag <;> rfl

@[simp] theorem has_single (f g : Flag) : (single f).has g = decide (g = f) := by
  simp [single]

@[simp] theorem has_union (f g : Flags) (flag : Flag) :
    (f.union g).has flag = (f.has flag || g.has flag) := by
  simp [union]

@[simp] theorem has_raise (f : Flags) (a b : Flag) :
    (f.raise a).has b = (f.has b || decide (b = a)) := by
  simp [raise]

/-! ### The header byte -/

theorem ofByte_toByte (f : Flags) : ofByte f.toByte = f := by
  rcases f with ⟨a, b, c, d, e, g, h, i⟩
  cases a <;> cases b <;> cases c <;> cases d <;>
    cases e <;> cases g <;> cases h <;> cases i <;> rfl

theorem toByte_ofByte (byte : UInt8) : (ofByte byte).toByte = byte := by
  have all : ∀ n : Fin 256, (ofByte (UInt8.ofNat n)).toByte = UInt8.ofNat n := by decide +kernel
  simpa using all ⟨byte.toNat, byte.toNat_lt⟩

end Flags
end FieldbusNode
