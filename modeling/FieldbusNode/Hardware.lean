/-
What a controller needs from its board.

`Hardware` is sensors and actuators.  A board implements what it physically has
and leaves the rest unsupported.  `Board` adds the cycle trigger, the local
watchdog, the stop line and the transport of process data.  Every call takes the
board and returns it, so any type whatever can be a board, also one that changes
its mind between two reads.
-/
import FieldbusNode.Event
namespace FieldbusNode

/-- One observed edge of the cycle trigger. -/
structure Edge where
  /-- Number given by the hardware, one more for every edge. -/
  sequence : Nat
  /-- Time of the edge since the board started, in nanoseconds. -/
  timestamp : Nat
  deriving DecidableEq

/-- Sensors and actuators. -/
class Hardware (β : Type) extends Journal β where
  /-- Position of an absolute encoder. -/
  readEncoder : EncoderChannel → β → Except HardwareError UInt32 × β :=
    fun _ b => (.error (.unsupported .encoder), b)
  /-- Raw reading of an analog channel. -/
  readAnalog : AnalogChannel → β → Except HardwareError UInt16 × β :=
    fun _ b => (.error (.unsupported .analog), b)
  /-- Raw limit-switch bank, a bit for each pressed switch. -/
  readLimitSwitches : β → Except HardwareError UInt8 × β :=
    fun b => (.error (.unsupported .limitSwitches), b)
  /-- Switches the motor amplifier on or off. -/
  setAmplifier : Bool → β → Except HardwareError Unit × β :=
    fun _ b => (.error (.unsupported .amplifier), b)
  /-- Commands a motor current. -/
  setCurrent : Int32 → β → Except HardwareError Unit × β :=
    fun _ b => (.error (.unsupported .amplifier), b)
  /-- Whether the amplifier latched a fault. -/
  readAmplifierFault : β → Except HardwareError Bool × β :=
    fun b => (.error (.unsupported .amplifier), b)
  /-- Asks the inertial sensor for one frame. -/
  pulseImu : β → Except HardwareError Unit × β :=
    fun b => (.error (.unsupported .imu), b)
  /-- Takes received bytes of the inertial sensor, at most so many. -/
  readImu : Nat → β → Except HardwareError (List UInt8) × β :=
    fun _ b => (.error (.unsupported .imu), b)

/-- Everything a node's controller needs. -/
class Board (β : Type) extends Hardware β where
  /-- Waits for the next edge, at most so many nanoseconds. -/
  awaitEdge : Nat → β → Option Edge × β
  /-- Nanoseconds since the most recent edge. -/
  sinceEdge : β → Nat
  /-- Nanoseconds that the cycle which is ending took, by a clock of the machine.  A simulated board
  has a time of its own, which may stand still meanwhile. -/
  cycleDuration : β → Nat
  /-- Restarts the countdown of the local watchdog. -/
  feed : β → β
  /-- Whether the countdown ran out. -/
  expired : β → Bool × β
  /-- Whether anybody asserts the stop line. -/
  lineAsserted : β → Bool
  /-- Asserts the stop line from this node. -/
  assertLine : β → β
  /-- Ends this node's assertion of the stop line. -/
  releaseLine : β → β
  /-- Hands outbound bytes to the transport. -/
  send : List UInt8 → β → β
  /-- Inbound bytes of the transport, at most so many. -/
  receive : Nat → β → List UInt8 × β

end FieldbusNode
