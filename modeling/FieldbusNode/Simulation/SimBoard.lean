/-
A simulated board in virtual time.

Time moves when the master steps, when a wait finds no edge, and on demand, and
at no other time.  The local watchdog is latched when more than its timeout has
passed since the last feed; a late feed does not take that back.

Edges wait in a queue of four.  When it is full the oldest one is lost.  The
inbound record is overwritten by every step, so the edges of a backlog are all
served against the latest one.
-/
import FieldbusNode.Duration
import FieldbusNode.Hardware
import FieldbusNode.Record
import FieldbusNode.Simulation.Sensor
namespace FieldbusNode.Simulation

/-- Edges buffered before the oldest is lost. -/
def edgeQueueDepth : Nat := 4

/-- State of a simulated board. -/
structure SimBoard where
  /-- Virtual time in nanoseconds. -/
  now : Nat
  /-- Edges not observed yet, oldest first. -/
  edges : List Edge
  /-- Number of the newest edge. -/
  edgeSequence : Nat
  /-- Time of the newest edge. -/
  lastEdgeAt : Nat
  droppedEdges : Nat
  watchdogTimeout : Nat
  lastFeed : Nat
  feedCount : Nat
  watchdogExpired : Bool
  /-- The stop line is asserted from outside. -/
  externalStop : Bool
  /-- The stop line is asserted by this node. -/
  selfAsserted : Bool
  /-- Inbound record as the master wrote it. -/
  rx : Record
  /-- Outbound record as last published. -/
  tx : Record
  txWrites : Nat
  encoders : EncoderBank UInt32
  encoderFaults : EncoderBank Bool
  thermistors : Triple UInt16
  motorVoltage : UInt16
  logicVoltage : UInt16
  limitSwitches : UInt8
  amplifierEnabled : Bool
  motorCurrent : Int32
  amplifierFault : Bool
  /-- The amplifier refuses current commands. -/
  amplifierReject : Bool
  imu : Sensor
  /-- What the machine takes for a cycle, in nanoseconds of its own clock. -/
  workload : Nat
  /-- What was reported, newest first. -/
  reported : List Event
  /-- The first failed run-time check. -/
  trapped : Option Trap

namespace SimBoard

/-- A board at time zero with healthy readings. -/
def fresh (watchdogTimeout : Nat) : SimBoard where
  now := 0
  edges := []
  edgeSequence := 0
  lastEdgeAt := 0
  droppedEdges := 0
  watchdogTimeout
  lastFeed := 0
  feedCount := 0
  watchdogExpired := false
  externalStop := false
  selfAsserted := false
  rx := .zero
  tx := .zero
  txWrites := 0
  encoders := .fill 16777216
  encoderFaults := .fill false
  thermistors := .fill 1500
  motorVoltage := 2800
  logicVoltage := 3000
  limitSwitches := 0
  amplifierEnabled := false
  motorCurrent := 0
  amplifierFault := false
  amplifierReject := false
  imu := .fresh
  workload := 0
  reported := []
  trapped := none

instance : Journal SimBoard where
  note e b := { b with reported := e :: b.reported }
  trap t b := { b with trapped := b.trapped.or (some t) }

/-! ### Time and the local watchdog -/

/-- Nanoseconds since the last feed. -/
def sinceFeed (b : SimBoard) : Nat := b.now - b.lastFeed

/-- Latches the watchdog if its countdown has run out. -/
def latchWatchdog (b : SimBoard) : SimBoard :=
  if !b.watchdogExpired && b.watchdogTimeout < b.sinceFeed then
    Journal.note (.watchdogLatched (Duration.toMicrosWord b.sinceFeed))
      { b with watchdogExpired := true }
  else b

/-- Lets time pass. -/
def advance (b : SimBoard) (nanos : Nat) : SimBoard :=
  let later := { b with now := b.now + nanos }
  (Journal.trapIf (Duration.longest < later.now) .overflow later).latchWatchdog

/-- Restarts the countdown.  A countdown that has run out stays latched. -/
def feed (b : SimBoard) : SimBoard :=
  let b := b.latchWatchdog
  { b with lastFeed := b.now, feedCount := b.feedCount + 1 }

/-- Whether the countdown ran out. -/
def expired (b : SimBoard) : Bool × SimBoard :=
  let b := b.latchWatchdog
  (b.watchdogExpired, b)

/-! ### Edges -/

/-- Fires the cycle trigger. -/
def pushEdge (b : SimBoard) : SimBoard :=
  let edge : Edge := ⟨b.edgeSequence + 1, b.now⟩
  let fired := { b with edgeSequence := edge.sequence, lastEdgeAt := b.now }
  if b.edges.length < edgeQueueDepth then { fired with edges := b.edges ++ [edge] }
  else
    Journal.note (.edgeLost edge.sequence)
      { fired with edges := b.edges.tail ++ [edge], droppedEdges := b.droppedEdges + 1 }

/-- Takes the oldest edge.  If there is none the whole wait passes. -/
def awaitEdge (b : SimBoard) (timeout : Nat) : Option Edge × SimBoard :=
  match b.edges with
  | edge :: rest => (some edge, { b with edges := rest })
  | [] => (none, b.advance timeout)

/-! ### Sensors and actuators -/

/-- Reads an encoder. -/
def readEncoder (b : SimBoard) (channel : EncoderChannel) : Except HardwareError UInt32 :=
  if b.encoderFaults.get channel then .error (.sensorFault (channel.name ++ " encoder timeout"))
  else .ok (b.encoders.get channel)

/-- Reads an analog channel. -/
def readAnalog (b : SimBoard) : AnalogChannel → Except HardwareError UInt16
  | .thermistor index =>
    match b.thermistors.get? index.toNat with
    | some counts => .ok counts
    | none => .error (.sensorFault ("no analog channel " ++ (AnalogChannel.thermistor index).name))
  | .motorVoltage => .ok b.motorVoltage
  | .logicVoltage => .ok b.logicVoltage

/-- Switches the amplifier.  Switched off it carries no current. -/
def setAmplifier (b : SimBoard) (enabled : Bool) : SimBoard :=
  Journal.note (.amplifierSwitched enabled)
    { b with
      amplifierEnabled := enabled
      motorCurrent := if enabled then b.motorCurrent else 0 }

/-- Commands a motor current. -/
def setCurrent (b : SimBoard) (current : Int32) : Except HardwareError Unit × SimBoard :=
  if b.amplifierReject then (.error (.actuatorFault "current command rejected"), b)
  else (.ok (), { b with motorCurrent := if b.amplifierEnabled then current else 0 })

instance : Board SimBoard where
  readEncoder channel b := (b.readEncoder channel, b)
  readAnalog channel b := (b.readAnalog channel, b)
  readLimitSwitches b := (.ok b.limitSwitches, b)
  setAmplifier enabled b := (.ok (), b.setAmplifier enabled)
  setCurrent current b := b.setCurrent current
  readAmplifierFault b := (.ok b.amplifierFault, b)
  pulseImu b := (.ok (), { b with imu := b.imu.pulse })
  readImu capacity b :=
    let (bytes, imu) := b.imu.fetch capacity
    (.ok bytes, { b with imu })
  awaitEdge timeout b := b.awaitEdge timeout
  sinceEdge b := b.now - b.lastEdgeAt
  cycleDuration b := b.workload
  feed b := b.feed
  expired b := b.expired
  lineAsserted b := b.externalStop || b.selfAsserted
  assertLine b := { b with selfAsserted := true }
  releaseLine b := { b with selfAsserted := false }
  send bytes b := { b with tx := b.tx.put 0 bytes, txWrites := b.txWrites + 1 }
  receive capacity b := (b.rx.leading (min capacity recordCapacity), b)

end SimBoard
end FieldbusNode.Simulation
