/-
A leg whose motor-side encoder works is a hip.

`Monitor.oneSided` takes the encoder on the motor side away, and with it the position that was
read from it.  Of a sample the supervision of an actuator asks whether that position is missing
and nothing else, so if it is not (`Monitor.Seen`) the monitor without the encoder sees the same
faults.  It also does the same: every call to a board commutes with `oneSided`.

A leg and a hip are kin if the one is the other without that encoder, and nothing else tells
them apart but what they publish and report (`Controller.Kin`).  Each phase of a cycle keeps
kin, the tick because kin plants simulate each other, and sampling if the encoder works; so a
pass keeps them (`Controller.Kin.poll`).
-/
import FieldbusNode.Proofs.Tally
import FieldbusNode.Proofs.Veil
namespace FieldbusNode

open Simulation (SimBoard Rig Action Master)

/-! ### Monitors -/

namespace Actuator

/-- The sample without the position on the motor side. -/
def Sample.oneSided (s : Sample) : Sample :=
  { s with motorPosition := none }

namespace Monitor

/-- The monitor without an encoder on the motor side. -/
def oneSided (m : Monitor) : Monitor :=
  { m with
    motorEncoder := false
    sample := m.sample.map Sample.oneSided }

/-- No sample misses a position on the motor side. -/
def Seen (m : Monitor) : Prop :=
  ∀ s, m.sample = some s → (m.motorEncoder && s.motorPosition.isNone) = false

variable (m : Monitor)

theorem oneSided_oneSided : m.oneSided.oneSided = m.oneSided := by
  unfold oneSided
  cases m.sample <;> rfl

theorem position_oneSided : m.oneSided.position = m.position := by
  unfold position oneSided
  cases m.sample <;> rfl

theorem inHaltZone_oneSided : m.oneSided.inHaltZone = m.inHaltZone := by
  unfold inHaltZone
  rw [position_oneSided]
  rfl

variable {m}

theorem judge_oneSided {s : Sample} (seen : (m.motorEncoder && s.motorPosition.isNone) = false) :
    m.oneSided.judge s.oneSided = m.judge s := by
  unfold judge
  rw [seen, inHaltZone_oneSided]
  rfl

theorem evaluate_oneSided (seen : m.Seen) : m.oneSided.evaluate = m.evaluate := by
  cases sampled : m.sample with
  | none => simp only [evaluate, oneSided, sampled, Option.map_none]
  | some s =>
      have judged := judge_oneSided (seen s sampled)
      have before : m.evaluate = m.judge s := by rw [evaluate, sampled]
      have behind : m.oneSided.evaluate = m.oneSided.judge s.oneSided := by
        simp only [evaluate, oneSided, sampled, Option.map_some]
      rw [before, behind, judged]

theorem faulty_oneSided (seen : m.Seen) : m.oneSided.faulty = m.faulty := by
  unfold faulty
  rw [evaluate_oneSided seen]
  rfl

end Monitor
end Actuator

/-! ### Boards -/

namespace Simulation.SimBoard

/-- The board without what it has published and reported. -/
def hushed (b : SimBoard) : SimBoard :=
  { b with tx := .zero, reported := [] }

/-- Two boards that differ in nothing but what they have published and reported. -/
def Like (b b' : SimBoard) : Prop :=
  b.hushed = b'.hushed

namespace Like

variable {b b' : SimBoard}

/-- So the second is the first with a record and reports of its own. -/
theorem found (h : b.Like b') : ∃ tx reported, b' = { b with tx, reported } := by
  have same := congrArg (fun k : SimBoard => { k with tx := b'.tx, reported := b'.reported }) h
  exact ⟨b'.tx, b'.reported, same.symm⟩

theorem edges (h : b.Like b') : b'.edges = b.edges := by
  obtain ⟨tx, reported, rfl⟩ := h.found
  rfl

theorem alive (h : b.Like b') : b.Alive ↔ b'.Alive := by
  obtain ⟨tx, reported, rfl⟩ := h.found
  exact Iff.rfl

theorem setEdges (h : b.Like b') (edges : List Edge) :
    SimBoard.Like { b with edges } { b' with edges } := by
  obtain ⟨tx, reported, rfl⟩ := h.found
  rfl

theorem noteAll (h : b.Like b') (events events' : List Event) :
    (Journal.noteAll events b).Like (Journal.noteAll events' b') := by
  have deaf (events : List Event) (b : SimBoard) : (Journal.noteAll events b).hushed = b.hushed :=
    Journal.noteAll_leaves (fun _ _ => rfl) events b
  exact (deaf events b).trans (h.trans (deaf events' b').symm)

theorem noteIf (h : b.Like b') (condition condition' : Bool) (e e' : Event) :
    (Journal.noteIf condition e b).Like (Journal.noteIf condition' e' b') := by
  cases condition <;> cases condition' <;> exact h

theorem trapIf (h : b.Like b') (condition : Bool) (t : Trap) :
    (Journal.trapIf condition t b).Like (Journal.trapIf condition t b') := by
  cases condition with
  | true => exact congrArg (Journal.trap t) h
  | false => exact h

theorem latchWatchdog (h : b.Like b') : b.latchWatchdog.Like b'.latchWatchdog := by
  obtain ⟨tx, reported, rfl⟩ := h.found
  show SimBoard.hushed (ite _ _ _) = SimBoard.hushed (ite _ _ _)
  rw [apply_ite hushed, apply_ite hushed]
  rfl

theorem advance (h : b.Like b') (nanos : Nat) : (b.advance nanos).Like (b'.advance nanos) := by
  obtain ⟨tx, reported, rfl⟩ := h.found
  have later : SimBoard.Like { b with now := b.now + nanos }
      { b with now := b.now + nanos, tx, reported } := rfl
  exact (later.trapIf (Duration.longest < b.now + nanos) .overflow).latchWatchdog

theorem feed (h : b.Like b') : b.feed.Like b'.feed := by
  have latched := congrArg
    (fun b : SimBoard => { b with lastFeed := b.now, feedCount := b.feedCount + 1 })
    h.latchWatchdog
  exact latched

theorem pushEdge (h : b.Like b') : b.pushEdge.Like b'.pushEdge := by
  obtain ⟨tx, reported, rfl⟩ := h.found
  show SimBoard.hushed (ite _ _ _) = SimBoard.hushed (ite _ _ _)
  rw [apply_ite hushed, apply_ite hushed]
  rfl

/-- What happens to a rig from outside happens to both. -/
theorem act (h : b.Like b') (master : Master) (action : Action) :
    (Rig.act ⟨b, master⟩ action).board.Like (Rig.act ⟨b', master⟩ action).board ∧
      (Rig.act ⟨b, master⟩ action).master = (Rig.act ⟨b', master⟩ action).master := by
  cases action with
  | step =>
      obtain ⟨tx, reported, rfl⟩ := h.found
      have written : SimBoard.Like { b with rx := master.prepared.rx }
          { b with rx := master.prepared.rx, tx, reported } := rfl
      exact ⟨(written.advance master.prepared.period).pushEdge, rfl⟩
  | advance nanos => exact ⟨h.advance nanos, rfl⟩
  | setInbound f t value =>
      simp only [Rig.act]
      split
      · exact ⟨h, rfl⟩
      · exact ⟨congrArg (Journal.trap _) h, rfl⟩
  | _ =>
      obtain ⟨tx, reported, rfl⟩ := h.found
      exact ⟨rfl, rfl⟩

theorem send (h : b.Like b') (bytes bytes' : List UInt8) :
    (Board.send bytes b).Like (Board.send bytes' b') := by
  have sent := congrArg (fun b : SimBoard => { b with txWrites := b.txWrites + 1 }) h
  exact sent

theorem setCurrent (h : b.Like b') (current : Int32) :
    (Hardware.setCurrent current b).1 = (Hardware.setCurrent current b').1 ∧
      (Hardware.setCurrent current b).2.Like (Hardware.setCurrent current b').2 := by
  have reject : b.amplifierReject = b'.amplifierReject := by
    have erased := congrArg amplifierReject h
    exact erased
  cases rejected : b'.amplifierReject with
  | true =>
      rw [setCurrent_of_rejecting current (reject.trans rejected),
        setCurrent_of_rejecting current rejected]
      exact ⟨rfl, h⟩
  | false =>
      rw [setCurrent_of_accepting current (reject.trans rejected),
        setCurrent_of_accepting current rejected]
      have carried := congrArg (fun k : SimBoard =>
        { k with motorCurrent := if k.amplifierEnabled then current else 0 }) h
      exact ⟨rfl, carried⟩

end Like
end Simulation.SimBoard

/-! ### Outputs -/

namespace Actuator.Monitor

variable {b b' : SimBoard} (m : Monitor)

theorem oneSided_commandCurrent (like : b.Like b') (current : Int32) :
    (m.oneSided.commandCurrent current b').1 = (m.commandCurrent current b).1 ∧
      (m.oneSided.commandCurrent current b').2.1 = (m.commandCurrent current b).2.1.oneSided ∧
      (m.commandCurrent current b).2.2.Like (m.oneSided.commandCurrent current b').2.2 := by
  unfold commandCurrent oneSided
  dsimp only
  split
  · exact ⟨rfl, rfl, like⟩
  split
  · exact ⟨rfl, rfl, congrArg (Journal.trap _) like⟩
  next clamped _ =>
    obtain ⟨answer, after⟩ := like.setCurrent clamped
    generalize Hardware.setCurrent clamped b = p at answer after
    generalize Hardware.setCurrent clamped b' = q at answer after
    obtain ⟨taken, b⟩ := p
    obtain ⟨taken', b'⟩ := q
    obtain rfl : taken = taken' := answer
    cases taken with
    | ok => exact ⟨rfl, rfl, after⟩
    | error e => exact ⟨rfl, rfl, after.noteIf _ _ _ _⟩

theorem oneSided_haltStep (like : b.Like b') :
    (m.oneSided.haltStep b').1 = (m.haltStep b).1 ∧
      (m.oneSided.haltStep b').2.1 = (m.haltStep b).2.1.oneSided ∧
      (m.haltStep b).2.2.Like (m.oneSided.haltStep b').2.2 := by
  have flags : m.oneSided.flags = m.flags := rfl
  have previous : m.oneSided.previousPosition = m.previousPosition := rfl
  have limits : m.oneSided.limits = m.limits := rfl
  unfold haltStep
  rw [flags, previous, limits, position_oneSided]
  split
  · exact ⟨rfl, rfl, like⟩
  split
  · split
    · exact ⟨rfl, rfl, congrArg (Journal.trap _) like⟩
    · exact m.oneSided_commandCurrent like _
  · exact m.oneSided_commandCurrent like _

/-- The sample is the same once a current was commanded. -/
theorem Driven.seen {m m' : Monitor} (driven : m.Driven b m' b') (seen : m.Seen) : m'.Seen := by
  cases driven <;> exact seen

end Actuator.Monitor

namespace Device

/-- The hip that a leg is without its encoder on the motor side. -/
def oneSided : Device → Device
  | .actuator _ m => .actuator .hip m.oneSided
  | other => other

/-- A leg that misses no position, and the hip it is without its encoder on the motor side. -/
inductive Kin : Device → Device → Prop
  | mk {m : Actuator.Monitor} (seen : m.Seen) : Kin (.actuator .leg m) (.actuator .hip m.oneSided)

theorem Kin.found {d d' : Device} (h : d.Kin d') :
    ∃ m : Actuator.Monitor, m.Seen ∧ d = .actuator .leg m ∧ d' = .actuator .hip m.oneSided := by
  obtain ⟨seen⟩ := h
  exact ⟨_, seen, rfl, rfl⟩

end Device

/-! ### Plants -/

namespace Mounted

/-- A leg and a hip that are kin, on boards that are like each other. -/
structure Kin (p q : Mounted SimBoard) : Prop where
  device : p.device.Kin q.device
  board : p.board.Like q.board

variable {p q : Mounted SimBoard}

theorem Kin.runHalt (h : p.Kin q) :
    (Plant.runHalt p).1 = (Plant.runHalt q).1 ∧ (Plant.runHalt p).2.Kin (Plant.runHalt q).2 := by
  obtain ⟨device, b⟩ := p
  obtain ⟨other, b'⟩ := q
  obtain ⟨@⟨m, seen⟩, like⟩ := h
  obtain ⟨answer, monitor, board⟩ := m.oneSided_haltStep like
  have stepped : Device.Kin (.actuator .leg (m.haltStep b).2.1)
      (.actuator .hip (m.oneSided.haltStep b').2.1) := by
    rw [monitor]
    exact .mk ((m.haltStep_driven b).seen seen)
  exact ⟨answer.symm, stepped, board⟩

theorem Kin.update (h : p.Kin q) (data : ProcessData) :
    (Plant.updateOutputs data p).Kin (Plant.updateOutputs data q) := by
  obtain ⟨device, b⟩ := p
  obtain ⟨other, b'⟩ := q
  obtain ⟨@⟨m, seen⟩, like⟩ := h
  obtain ⟨-, monitor, board⟩ := m.oneSided_commandCurrent like data.currentCommand
  have driven := m.commandCurrent_driven data.currentCommand b
  have updated : Device.Kin (.actuator .leg (m.commandCurrent data.currentCommand b).2.1)
      (.actuator .hip (m.oneSided.commandCurrent data.currentCommand b').2.1) := by
    rw [monitor]
    exact .mk (driven.seen seen)
  exact ⟨updated, board⟩

theorem kin_simulates : Plant.Simulates Kin where
  note e _ _ h := ⟨h.device, h.board.noteAll [e] [e]⟩
  enableOutputs := by
    rintro ⟨_, b⟩ ⟨_, b'⟩ ⟨⟨seen⟩, like⟩
    obtain ⟨tx, reported, rfl⟩ := like.found
    exact ⟨.mk seen, rfl⟩
  disableOutputs := by
    rintro ⟨_, b⟩ ⟨_, b'⟩ ⟨⟨seen⟩, like⟩
    obtain ⟨tx, reported, rfl⟩ := like.found
    exact ⟨.mk seen, rfl⟩
  updateOutputs data _ _ h := h.update data
  estop := by
    rintro ⟨_, b⟩ ⟨_, b'⟩ ⟨⟨seen⟩, like⟩
    obtain ⟨tx, reported, rfl⟩ := like.found
    exact ⟨.mk seen, rfl⟩
  resetError := by
    rintro ⟨_, b⟩ ⟨_, b'⟩ ⟨⟨seen⟩, like⟩
    exact ⟨.mk seen, like⟩
  runHalt h := h.runHalt
  assertLine := by
    rintro ⟨_, b⟩ ⟨_, b'⟩ ⟨device, like⟩
    obtain ⟨tx, reported, rfl⟩ := like.found
    exact ⟨device, rfl⟩
  releaseLine := by
    rintro ⟨_, b⟩ ⟨_, b'⟩ ⟨device, like⟩
    obtain ⟨tx, reported, rfl⟩ := like.found
    exact ⟨device, rfl⟩
  faulty := by
    rintro ⟨_, b⟩ ⟨_, b'⟩ ⟨⟨seen⟩, -⟩
    exact (Actuator.Monitor.faulty_oneSided seen).symm
  wantsHalt := by
    rintro ⟨_, b⟩ ⟨_, b'⟩ ⟨@⟨m, seen⟩, -⟩
    exact m.inHaltZone_oneSided.symm
  lineAsserted := by
    rintro ⟨_, b⟩ ⟨_, b'⟩ ⟨-, like⟩
    obtain ⟨tx, reported, rfl⟩ := like.found
    rfl

end Mounted

/-! ### Sampling -/

namespace Actuator

/-- Readings that differ in nothing but the position on the motor side, which is not missing. -/
structure Readings.Kin (motorEncoder : Bool) (r r' : Readings) : Prop where
  failures : r'.failures = r.failures
  sample : r'.sample = r.sample.oneSided
  seen : (motorEncoder && r.sample.motorPosition.isNone) = false

variable {m : Monitor} {r r' : Readings}

theorem Monitor.oneSided_take (h : r.Kin m.motorEncoder r') :
    m.oneSided.take r' = (m.take r).oneSided := by
  unfold take
  rw [h.failures, h.sample, position_oneSided]
  rfl

theorem Monitor.seen_take (h : r.Kin m.motorEncoder r') : (m.take r).Seen := by
  rintro _ ⟨⟩
  exact h.seen

theorem Monitor.seen_observe (h : r.Kin m.motorEncoder r') : (m.observe r).Seen :=
  seen_take h

/-- What a sample shows is latched alike. -/
theorem Monitor.oneSided_observe (h : r.Kin m.motorEncoder r') :
    m.oneSided.observe r' = (m.observe r).oneSided := by
  unfold observe
  rw [oneSided_take h]
  dsimp only
  rw [evaluate_oneSided (seen_take h)]
  rfl

end Actuator

/-- An encoder on the motor side, if there is one, that works. -/
theorem Simulation.SimBoard.kin_readings (motorEncoder : Bool) {b b' : SimBoard} (like : b.Like b')
    (works : motorEncoder = true → b.encoderFaults.get .motor = false) :
    (b.actuatorReadings motorEncoder).Kin motorEncoder (b'.actuatorReadings false) := by
  obtain ⟨tx, reported, rfl⟩ := like.found
  cases motorEncoder with
  | false => exact ⟨rfl, rfl, rfl⟩
  | true =>
      have read : b.readEncoder .motor = .ok (b.encoders.get .motor) := by
        rw [readEncoder, works rfl]
        rfl
      have readings : b.actuatorReadings true =
          { b.actuatorReadings false with motor := some (.ok (b.encoders.get .motor)) } := by
        rw [← read]
        rfl
      rw [readings]
      exact ⟨rfl, rfl, rfl⟩

/-! ### Controllers -/

/-- Process data of a leg and of a hip that differ in nothing but what is published. -/
structure ProcessData.Kin (p p' : ProcessData) : Prop where
  leg : p.layout = Kind.leg.layout
  hip : p'.layout = Kind.hip.layout
  inbound : p'.inbound = p.inbound
  counts : p'.publishCount = p.publishCount ∧ p'.ingestCount = p.ingestCount

/-- Whatever the two publish. -/
theorem ProcessData.Kin.fill {p p' : ProcessData} (h : p.Kin p')
    (values values' : List (Field × Nat)) : (p.fill values).Kin (p'.fill values') :=
  ⟨h.leg, h.hip, h.inbound, h.counts⟩

namespace Controller

/-- What an actuator makes of a controller that samples it. -/
theorem sampleInputs_actuator {c : Controller SimBoard} {joint : Joint} {m : Actuator.Monitor}
    (made : c.device = .actuator joint m) (layout : c.data.layout = joint.kind.layout)
    (sinceEdge : Nat) :
    c.sampleInputs sinceEdge =
      { c with
        device := .actuator joint (m.observe (c.board.actuatorReadings m.motorEncoder))
        data := c.data.fill ((Device.sampleTelemetry joint
          (c.board.actuatorReadings m.motorEncoder).sample (timestepOfNanos sinceEdge)).map
            ProcessData.Item.written)
        board := Journal.noteAll (m.observeEvents (c.board.actuatorReadings m.motorEncoder))
          c.board } := by
  unfold sampleInputs
  rw [made, Device.updateInputs_actuator,
    ProcessData.report_eq_fill layout (Device.own_sampleTelemetry _ _ _)]

/-- Sampling finds the encoders as they were when the cycle began. -/
theorem encoderFaults_accountEdge (c : Controller SimBoard) (edge : Edge) :
    (c.accountEdge edge).board.encoderFaults = c.board.encoderFaults := by
  have erased := congrArg SimBoard.encoderFaults (c.wiring_accountEdge edge)
  exact erased

/-- An actuator has nothing to do behind the exchange. -/
theorem afterExchange_actuator {c : Controller SimBoard} {joint : Joint} {m : Actuator.Monitor}
    (made : c.device = .actuator joint m) :
    c.afterExchange = { c with counter := c.counter + 1 } := by
  unfold afterExchange
  rw [made]
  rfl

/-- A leg and a hip that differ in nothing but the encoder on the motor side, their identity and
what they publish and report. -/
structure Kin (c c' : Controller SimBoard) : Prop where
  mounted : c.mounted.Kin c'.mounted
  data : c.data.Kin c'.data
  rest : c' = { c with board := c'.board, device := c'.device, data := c'.data, id := c'.id }

namespace Kin

variable {c c' : Controller SimBoard}

theorem device (h : c.Kin c') : c.device.Kin c'.device := h.mounted.device

theorem board (h : c.Kin c') : c.board.Like c'.board := h.mounted.board

theorem found (h : c.Kin c') : ∃ board device data id, c' = { c with board, device, data, id } :=
  ⟨_, _, _, _, h.rest⟩

theorem machine (h : c.Kin c') : c'.machine = c.machine := by
  rw [h.rest]

/-- Kin on other boards. -/
theorem onBoards (h : c.Kin c') {b b' : SimBoard} (like : b.Like b') :
    Kin { c with board := b } { c' with board := b' } := by
  obtain ⟨board, device, data, id, rfl⟩ := h.found
  exact ⟨⟨h.device, like⟩, h.data, rfl⟩

theorem accountEdge (h : c.Kin c') (edge : Edge) :
    (c.accountEdge edge).Kin (c'.accountEdge edge) := by
  have like := h.board
  obtain ⟨board, device, data, id, rfl⟩ := h.found
  exact ⟨⟨h.device, (like.trapIf _ _).noteIf _ _ _ _⟩, h.data, rfl⟩

theorem sampleInputs (h : c.Kin c') (sinceEdge : Nat)
    (works : c.board.encoderFaults.get .motor = false) :
    (c.sampleInputs sinceEdge).Kin (c'.sampleInputs sinceEdge) := by
  obtain ⟨m, seen, leg, hip⟩ := h.device.found
  have like := h.board
  have readings := SimBoard.kin_readings m.motorEncoder like fun _ => works
  have data := h.data
  obtain ⟨board, device, data', id, rfl⟩ := h.found
  rw [sampleInputs_actuator leg data.leg, sampleInputs_actuator hip data.hip]
  have observed : Device.Kin
      (.actuator .leg (m.observe (c.board.actuatorReadings m.motorEncoder)))
      (.actuator .hip (m.oneSided.observe (board.actuatorReadings false))) := by
    rw [Actuator.Monitor.oneSided_observe readings]
    exact .mk (Actuator.Monitor.seen_observe readings)
  exact ⟨⟨observed, like.noteAll _ _⟩, data.fill _ _, rfl⟩

theorem exchange (h : c.Kin c') : c.exchange.Kin c'.exchange := by
  have like := h.board
  obtain ⟨leg, hip, inbound, counts⟩ := h.data
  have rx : c'.board.rx = c.board.rx := by
    have erased := congrArg SimBoard.rx like
    exact erased.symm
  have taken : c'.exchange.data.inbound = c.exchange.data.inbound := by
    have fits : c.data.layout.rxSize ≤ recordCapacity := by rw [leg]; decide
    have fits' : c'.data.layout.rxSize ≤ recordCapacity := by rw [hip]; decide
    have same : c'.data.layout.rxSize = c.data.layout.rxSize := by rw [leg, hip]; decide
    rw [inbound_exchange c fits, inbound_exchange c' fits', inbound, rx, same]
  obtain ⟨published, ingested⟩ := counts_exchange c
  obtain ⟨published', ingested'⟩ := counts_exchange c'
  refine ⟨⟨h.device, like.send _ _⟩, ⟨c.layout_exchange.trans leg,
    c'.layout_exchange.trans hip, taken, ?_, ?_⟩, ?_⟩
  · rw [published, published', counts.1]
  · rw [ingested, ingested', counts.2]
  · obtain ⟨board, device, data, id, rfl⟩ := h.found
    rfl

theorem afterExchange (h : c.Kin c') : c.afterExchange.Kin c'.afterExchange := by
  obtain ⟨m, seen, leg, hip⟩ := h.device.found
  rw [afterExchange_actuator leg, afterExchange_actuator hip]
  obtain ⟨board, device, data, id, rfl⟩ := h.found
  exact ⟨h.mounted, h.data, rfl⟩

theorem feed (h : c.Kin c') (edgeSeen : Bool) : (c.feed edgeSeen).Kin (c'.feed edgeSeen) := by
  have fed := h.onBoards h.board.feed
  obtain ⟨board, device, data, id, rfl⟩ := h.found
  unfold Controller.feed
  dsimp only
  split
  · exact fed
  · exact h

theorem sampleStopLine (h : c.Kin c') : c.sampleStopLine.Kin c'.sampleStopLine := by
  have like := h.board
  obtain ⟨board, device, data, id, rfl⟩ := h.found
  obtain ⟨tx, reported, rfl⟩ := like.found
  exact ⟨⟨h.device, like.noteAll _ _⟩, h.data, rfl⟩

theorem tick (h : c.Kin c') : c.tick.Kin c'.tick := by
  -- The two ticks are handed records that differ in nothing they look at.
  have orders : c'.data.SameOrders c.data := by
    constructor
    · unfold ProcessData.command
      rw [h.data.inbound]
    · unfold ProcessData.masterCounter
      rw [h.data.inbound]
  have applied (p : Mounted SimBoard) :
      Plant.updateOutputs c'.data p = Plant.updateOutputs c.data p := by
    refine Mounted.updateOutputs_congr ?_ p
    unfold ProcessData.currentCommand
    rw [h.data.inbound]
  have handed : c'.machine.tick c'.data c'.mounted = c.machine.tick c.data c'.mounted := by
    rw [h.machine]
    exact Machine.tick_congr c.machine c'.mounted orders applied
  obtain ⟨machine, mounted⟩ :=
    Machine.tick_simulates Mounted.kin_simulates c.machine c.data h.mounted
  rw [← handed] at machine mounted
  have reached : c'.tick.machine = c.tick.machine := machine.symm
  obtain ⟨board, device, data, id, rfl⟩ := h.found
  refine ⟨mounted, h.data, ?_⟩
  rw [← reached]
  rfl

theorem recordCycle (h : c.Kin c') (edge : Edge) (sinceEdge : Nat) :
    (c.recordCycle edge sinceEdge).Kin (c'.recordCycle edge sinceEdge) := by
  have like := h.board
  have timed : Board.cycleDuration c'.board = Board.cycleDuration c.board := by
    have erased := congrArg Board.cycleDuration like
    exact erased.symm
  obtain ⟨board, device, data, id, rfl⟩ := h.found
  refine ⟨⟨h.device, ?_⟩, h.data, ?_⟩
  · unfold Controller.recordCycle
    rw [timed]
    exact ((like.trapIf _ _).noteIf _ _ _ _).noteAll [_] [_]
  · unfold Controller.recordCycle
    rw [timed]
    rfl

/-! ### A pass -/

theorem sinceEdge (h : c.Kin c') : Board.sinceEdge c'.board = Board.sinceEdge c.board := by
  have erased := congrArg Board.sinceEdge h.board
  exact erased.symm

theorem syncCycle (h : c.Kin c') (edge : Edge)
    (works : c.board.encoderFaults.get .motor = false) :
    (c.syncCycle edge).Kin (c'.syncCycle edge) := by
  have accounted := h.accountEdge edge
  rw [← encoderFaults_accountEdge] at works
  have readied : (c.readied edge).Kin (c'.readied edge) := by
    unfold Controller.readied
    dsimp only
    rw [accounted.sinceEdge]
    exact ((accounted.sampleInputs _ works).exchange.afterExchange.feed true).sampleStopLine
  rw [syncCycle_eq, syncCycle_eq, accounted.sinceEdge]
  exact readied.tick.recordCycle edge _

theorem idlePass (h : c.Kin c') : c.idlePass.Kin c'.idlePass := by
  have counted : Kin { c with statistics.idlePolls := c.statistics.idlePolls + 1 }
      { c' with statistics.idlePolls := c'.statistics.idlePolls + 1 } := by
    obtain ⟨board, device, data, id, rfl⟩ := h.found
    exact ⟨h.mounted, h.data, rfl⟩
  exact counted.feed false

theorem expire (h : c.Kin c') : c.expire.2.Kin c'.expire.2 := by
  have stopped := Mounted.kin_simulates.assertLine (Mounted.kin_simulates.estop h.mounted)
  obtain ⟨board, device, data, id, rfl⟩ := h.found
  exact ⟨⟨stopped.device, stopped.board.noteAll [_] [_]⟩, h.data, rfl⟩

theorem edge? (h : c.Kin c') : c'.edge? = c.edge? := by
  by_cases alive : c.board.Alive
  · rw [edge?_of_alive alive, edge?_of_alive (h.board.alive.mp alive), h.board.edges]
  · rw [edge?_of_spent alive, edge?_of_spent (mt h.board.alive.mpr alive)]

/-- **A pass keeps kin, and has the same outcome.** -/
theorem poll (h : c.Kin c') (works : c.edge? ≠ none → c.board.encoderFaults.get .motor = false) :
    c.poll.2.Kin c'.poll.2 ∧ c.poll.1 = c'.poll.1 := by
  by_cases alive : c.board.Alive
  · have alive' := h.board.alive.mp alive
    cases queue : c.board.edges with
    | nil =>
        have queue' := h.board.edges.trans queue
        have waited : (c.board.advance c.idlePoll).Like (c'.board.advance c'.idlePoll) := by
          rw [show c'.idlePoll = c.idlePoll by rw [h.rest]]
          exact h.board.advance c.idlePoll
        rw [poll_of_empty alive queue, poll_of_empty alive' queue']
        exact ⟨(h.onBoards waited).idlePass, rfl⟩
    | cons edge rest =>
        have queue' := h.board.edges.trans queue
        have observed : c.edge? ≠ none := by
          rw [edge?_of_alive alive, queue]
          exact Option.some_ne_none edge
        have cycle := (h.onBoards (h.board.setEdges rest)).syncCycle edge (works observed)
        rw [poll_of_edge alive queue, poll_of_edge alive' queue']
        refine ⟨cycle, ?_⟩
        rw [cycle.machine, h.machine]
  · have spent' := mt h.board.alive.mpr alive
    rw [poll_of_spent alive, poll_of_spent spent']
    refine ⟨(h.onBoards h.board.latchWatchdog).expire, ?_⟩
    rw [h.rest]

end Kin
end Controller
end FieldbusNode
