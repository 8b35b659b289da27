/-
A simulated board with its fieldbus master.

A step of the master is one fieldbus cycle as the node sees it: the inbound
record is written, one period passes, the cycle trigger fires.  Everything else
that can happen to a board from outside is an `Action` too, so a schedule of a
rig is a list of actions.
-/
import FieldbusNode.ProcessData
import FieldbusNode.Simulation.SimBoard
import FieldbusNode.Config
namespace FieldbusNode.Simulation

/-- A simulated fieldbus master. -/
structure Master where
  /-- Nanoseconds between two steps. -/
  period : Nat
  /-- Inbound record as it will be written. -/
  rx : Record
  /-- The commanded state as a raw byte. -/
  command : UInt8
  counter : UInt16
  /-- The counter does not advance. -/
  frozen : Bool
  /-- Steps so far. -/
  cycles : Nat

namespace Master

/-- A master that has not stepped, commanding `idle`. -/
def ofPeriod (period : Nat) : Master where
  period
  rx := .zero
  command := State.idle.toByte
  counter := 0
  frozen := false
  cycles := 0

/-- The master as it starts its next step: counter advanced, header filled in. -/
def prepared (m : Master) : Master :=
  let counter := if m.frozen then m.counter else m.counter + 1
  let commanding := m.rx.setByte Inbound.command.offset m.command
  { m with
    counter
    rx := commanding.putNat Inbound.masterCounter counter.toNat }

end Master

/-- A board and its master. -/
structure Rig where
  board : SimBoard
  master : Master

/-- What can happen to a board from outside. -/
inductive Action
  /-- The master will command this raw byte. -/
  | command (raw : UInt8)
  /-- The master's counter stops, or moves again. -/
  | freeze (on : Bool)
  /-- The master will send this value in a field. -/
  | setInbound (f : Field) (t : ValueType) (value : Int)
  /-- The master steps. -/
  | step
  /-- So many nanoseconds pass without an edge. -/
  | advance (nanos : Nat)
  /-- From now on a cycle takes so many nanoseconds by the clock of the machine. -/
  | workload (nanos : Nat)
  /-- Somebody else asserts the stop line, or lets go of it. -/
  | externalStop (on : Bool)
  | encoder (channel : EncoderChannel) (counts : UInt32)
  /-- Reads of an encoder fail, or work again. -/
  | encoderFault (channel : EncoderChannel) (on : Bool)
  | thermistor (index : Nat) (counts : UInt16)
  | motorVoltage (counts : UInt16)
  | logicVoltage (counts : UInt16)
  | limitSwitches (bits : UInt8)
  | amplifierFault (on : Bool)
  | amplifierReject (on : Bool)
  | imuSample (s : Inertial.Sample)
  | imuDisturb (fault : Disturbance)

namespace Rig

/-- A fresh board and master. -/
def fresh (safety : SafetySection) (period : Nat) : Rig :=
  ⟨.fresh (Duration.ofMicros safety.watchdogTimeout.toNat), .ofPeriod period⟩

/-- One fieldbus cycle as the node sees it. -/
def step (rig : Rig) : Rig :=
  let master := rig.master.prepared
  { board := ({ rig.board with rx := master.rx }.advance master.period).pushEdge
    master := { master with cycles := master.cycles + 1 } }

/-- What an action makes of a rig. -/
def act (rig : Rig) : Action → Rig
  | .command raw => { rig with master.command := raw }
  | .freeze on => { rig with master.frozen := on }
  | .setInbound f t value =>
    match rig.master.rx.write? f t value with
    | .ok rx => { rig with master.rx := rx }
    | .error e => { rig with board := Journal.trap e rig.board }
  | .step => rig.step
  | .advance nanos => { rig with board := rig.board.advance nanos }
  | .workload nanos => { rig with board.workload := nanos }
  | .externalStop on => { rig with board.externalStop := on }
  | .encoder channel counts =>
    { rig with board.encoders := rig.board.encoders.set channel counts }
  | .encoderFault channel on =>
    { rig with board.encoderFaults := rig.board.encoderFaults.set channel on }
  | .thermistor index counts =>
    { rig with board.thermistors := rig.board.thermistors.set index counts }
  | .motorVoltage counts => { rig with board.motorVoltage := counts }
  | .logicVoltage counts => { rig with board.logicVoltage := counts }
  | .limitSwitches bits => { rig with board.limitSwitches := bits }
  | .amplifierFault on => { rig with board.amplifierFault := on }
  | .amplifierReject on => { rig with board.amplifierReject := on }
  | .imuSample s => { rig with board.imu.sample := s }
  | .imuDisturb fault => { rig with board.imu.pending := fault }

/-- What a schedule makes of a rig. -/
def run (rig : Rig) (schedule : List Action) : Rig :=
  schedule.foldl act rig

end Rig
end FieldbusNode.Simulation
