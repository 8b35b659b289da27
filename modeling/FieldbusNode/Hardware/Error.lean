/-
What hardware calls name, and how they fail.
-/
namespace FieldbusNode

/-- Encoder channels a board may have. -/
inductive EncoderChannel
  /-- Motor side, before the spring. -/
  | motor
  /-- Output side, behind the spring. -/
  | output
  | boomPitch
  | boomPan
  | boomTilt
  deriving DecidableEq

namespace EncoderChannel

/-- Every channel, in the order of their indices. -/
def all : List EncoderChannel := [.motor, .output, .boomPitch, .boomPan, .boomTilt]

/-- Index into tables with an entry per channel. -/
def index : EncoderChannel → Nat
  | .motor => 0
  | .output => 1
  | .boomPitch => 2
  | .boomPan => 3
  | .boomTilt => 4

/-- Name used in diagnostics. -/
def name : EncoderChannel → String
  | .motor => "Motor"
  | .output => "Output"
  | .boomPitch => "BoomPitch"
  | .boomPan => "BoomPan"
  | .boomTilt => "BoomTilt"

end EncoderChannel

/-- Analog channels a board may have. -/
inductive AnalogChannel
  | thermistor (index : UInt8)
  | motorVoltage
  | logicVoltage
  deriving DecidableEq

/-- Name used in diagnostics. -/
def AnalogChannel.name : AnalogChannel → String
  | .thermistor index => "Thermistor(" ++ toString index.toNat ++ ")"
  | .motorVoltage => "MotorVoltage"
  | .logicVoltage => "LogicVoltage"

/-- What a board can lack. -/
inductive Capability
  | encoder
  | analog
  | limitSwitches
  | amplifier
  | imu
  deriving DecidableEq

/-- Name used in messages. -/
def Capability.name : Capability → String
  | .encoder => "encoder"
  | .analog => "analog"
  | .limitSwitches => "limit switches"
  | .amplifier => "amplifier"
  | .imu => "imu"

/-- How a hardware call fails. -/
inductive HardwareError
  /-- The board lacks the capability. -/
  | unsupported (capability : Capability)
  /-- A read failed. -/
  | sensorFault (detail : String)
  /-- A command was refused. -/
  | actuatorFault (detail : String)
  /-- The hardware could not be set up. -/
  | setupFailed (detail : String)
  deriving DecidableEq

/-- The wording of a failure. -/
def HardwareError.message : HardwareError → String
  | .unsupported capability => "capability not supported: " ++ capability.name
  | .sensorFault detail => "sensor read failed: " ++ detail
  | .actuatorFault detail => "actuator fault: " ++ detail
  | .setupFailed detail => "initialization failed: " ++ detail

/-- A value for every encoder channel. -/
structure EncoderBank (α : Type) where
  motor : α
  output : α
  boomPitch : α
  boomPan : α
  boomTilt : α
  deriving DecidableEq

namespace EncoderBank

/-- The same value on every channel. -/
def fill {α : Type} (a : α) : EncoderBank α := ⟨a, a, a, a, a⟩

/-- The value of a channel. -/
def get {α : Type} (bank : EncoderBank α) : EncoderChannel → α
  | .motor => bank.motor
  | .output => bank.output
  | .boomPitch => bank.boomPitch
  | .boomPan => bank.boomPan
  | .boomTilt => bank.boomTilt

/-- Replaces the value of a channel. -/
def set {α : Type} (bank : EncoderBank α) (channel : EncoderChannel) (a : α) : EncoderBank α :=
  match channel with
  | .motor => { bank with motor := a }
  | .output => { bank with output := a }
  | .boomPitch => { bank with boomPitch := a }
  | .boomPan => { bank with boomPan := a }
  | .boomTilt => { bank with boomTilt := a }

@[simp] theorem get_fill {α : Type} (a : α) (channel : EncoderChannel) :
    (fill a).get channel = a := by
  cases channel <;> rfl

@[simp] theorem get_set {α : Type} (bank : EncoderBank α) (c d : EncoderChannel) (a : α) :
    (bank.set c a).get d = if c = d then a else bank.get d := by
  cases c <;> cases d <;> rfl

end EncoderBank
end FieldbusNode
