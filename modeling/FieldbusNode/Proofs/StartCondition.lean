/-
When an actuator starts.

The pre-run checks forget what was latched before and start the debounce of the limit switches
again, so all they go by is the line and the sample of the cycle they run in.  What they want of a
board is `SimBoard.Startable`, and that is exact: an idle node that is commanded to run gets into
`run` on such a board and into `error` on every other one (`Controller.launches_or_refuses`),
whatever it has been through before.
-/
import FieldbusNode.Proofs.Calm
import FieldbusNode.Proofs.Dwell
namespace FieldbusNode

open Simulation (SimBoard Station Move)

/-! ### What the checks want of a board -/

/-- Nobody else asserts the stop line, and what an actuator samples is within its limits. -/
structure Simulation.SimBoard.Startable (limits : Limits) (joint : Joint) (b : SimBoard) :
    Prop where
  line : b.externalStop = false
  thermistors : ∀ t ∈ b.thermistors.toList, t ≤ limits.thermistorMax
  motorVoltage : limits.motorVoltageMin ≤ b.motorVoltage ∧
    b.motorVoltage ≤ limits.motorVoltageMax
  logicVoltage : limits.logicVoltageMin ≤ b.logicVoltage ∧
    b.logicVoltage ≤ limits.logicVoltageMax
  outputEncoder : b.encoderFaults.output = false
  /-- Only a leg has an encoder on the motor side. -/
  motorEncoder : joint = .leg → b.encoderFaults.motor = false
  amplifier : b.amplifierFault = false
  position : limits.haltPositionMin ≤ b.encoders.output ∧
    b.encoders.output ≤ limits.haltPositionMax

-- The thermistors are decided as a list: a search for an instance may go through all readings.
instance (limits : Limits) (joint : Joint) (b : SimBoard) : Decidable (b.Startable limits joint) :=
  decidable_of_iff (b.externalStop = false ∧
      b.thermistors.toList.all (fun t => decide (t ≤ limits.thermistorMax)) = true ∧
      (limits.motorVoltageMin ≤ b.motorVoltage ∧ b.motorVoltage ≤ limits.motorVoltageMax) ∧
      (limits.logicVoltageMin ≤ b.logicVoltage ∧ b.logicVoltage ≤ limits.logicVoltageMax) ∧
      b.encoderFaults.output = false ∧ (joint = .leg → b.encoderFaults.motor = false) ∧
      b.amplifierFault = false ∧ limits.haltPositionMin ≤ b.encoders.output ∧
      b.encoders.output ≤ limits.haltPositionMax) <| by
    simp only [List.all_eq_true, decide_eq_true_eq]
    constructor
    · rintro ⟨line, thermistors, motor, logic, output, leg, amplifier, position⟩
      exact ⟨line, thermistors, motor, logic, output, leg, amplifier, position⟩
    · rintro ⟨line, thermistors, motor, logic, output, leg, amplifier, position⟩
      exact ⟨line, thermistors, motor, logic, output, leg, amplifier, position⟩

theorem Flags.hasFault_eq_false {f : Flags} : f.hasFault = false ↔
    f.limitSwitch = false ∧ f.thermistor = false ∧ f.motorVoltage = false ∧
      f.logicVoltage = false ∧ f.sensor = false ∧ f.amplifier = false := by
  simp [hasFault, intersects, Flag.all, has, faultMask]

theorem Debounce.tripped_reset (d : Debounce) : d.reset.tripped = false :=
  decide_eq_false (Nat.not_lt_zero d.limit)

theorem Simulation.SimBoard.isNone_readEncoder (b : SimBoard) (channel : EncoderChannel) :
    (Actuator.value? (b.readEncoder channel)).isNone = b.encoderFaults.get channel := by
  unfold readEncoder
  cases b.encoderFaults.get channel <;> rfl

namespace Actuator.Monitor

/-- A voltage is inside its window. -/
theorem window_iff {low high v : UInt16} :
    (decide (v < low) || decide (high < v)) = false ↔ low ≤ v ∧ v ≤ high := by
  simp [UInt16.not_lt]

variable {joint : Joint} {m : Monitor} {b : SimBoard}

/-- A monitor that has sampled a board and was reset. -/
def checked (m : Monitor) (b : SimBoard) : Monitor :=
  (m.observe (b.actuatorReadings m.motorEncoder)).reset

/-- After a reset it is the sample that is judged, and the limit switches are no part of it. -/
theorem faulty_checked_iff (fitted : m.motorEncoder = joint.motorEncoder) :
    (m.checked b).faulty = false ↔
      (∀ t ∈ b.thermistors.toList, t ≤ m.limits.thermistorMax) ∧
        (m.limits.motorVoltageMin ≤ b.motorVoltage ∧ b.motorVoltage ≤ m.limits.motorVoltageMax) ∧
        (m.limits.logicVoltageMin ≤ b.logicVoltage ∧ b.logicVoltage ≤ m.limits.logicVoltageMax) ∧
        (b.encoderFaults.output = false ∧ (joint = .leg → b.encoderFaults.motor = false)) ∧
        b.amplifierFault = false := by
  let shown := (m.checked b).judge (b.actuatorReadings m.motorEncoder).sample
  have judged : (m.checked b).faulty = shown.hasFault := rfl
  have switches : shown.limitSwitch = false :=
    Debounce.tripped_reset (m.limitSwitch.sample (b.limitSwitches != 0))
  have thermistors : shown.thermistor = false ↔
      ∀ t ∈ b.thermistors.toList, t ≤ m.limits.thermistorMax := by
    show b.thermistors.any (m.limits.thermistorMax < ·) = false ↔ _
    rw [Bool.eq_false_iff, ne_eq, Triple.any_eq_true]
    simp [UInt16.not_lt]
  have encoders : shown.sensor = false ↔
      b.encoderFaults.output = false ∧ (joint = .leg → b.encoderFaults.motor = false) := by
    have output := b.isNone_readEncoder .output
    have motor := b.isNone_readEncoder .motor
    show ((value? (b.readEncoder .output)).isNone || (m.motorEncoder &&
      (Option.bind (if m.motorEncoder then some (b.readEncoder .motor) else none)
        value?).isNone)) = false ↔ _
    rw [fitted, output, Bool.or_eq_false_iff]
    cases joint with
    | leg => simp [Joint.motorEncoder, motor, EncoderBank.get]
    | hip => simp [Joint.motorEncoder, EncoderBank.get]
  rw [judged, Flags.hasFault_eq_false, thermistors, encoders]
  constructor
  · rintro ⟨-, cool, motor, logic, read, amplifier⟩
    exact ⟨cool, window_iff.mp motor, window_iff.mp logic, read, amplifier⟩
  · rintro ⟨cool, motor, logic, read, amplifier⟩
    exact ⟨switches, cool, window_iff.mpr motor, window_iff.mpr logic, read, amplifier⟩

/-- A position that was read decides about the halt zone. -/
theorem inHaltZone_checked_iff (read : b.encoderFaults.output = false) :
    (m.checked b).inHaltZone = false ↔ m.limits.haltPositionMin ≤ b.encoders.output ∧
      b.encoders.output ≤ m.limits.haltPositionMax := by
  have position : (m.checked b).position = some b.encoders.output := by
    show value? (b.readEncoder .output) = _
    rw [SimBoard.readEncoder, if_neg (by simpa [EncoderBank.get] using read)]
    rfl
  rw [inHaltZone, position]
  show (decide (_ < m.limits.haltPositionMin) || decide (m.limits.haltPositionMax < _)) = false ↔ _
  simp [UInt32.not_lt]

/-- **The checks go by the board that was sampled, and by nothing else.** -/
theorem startable_iff {limits : Limits} (follows : (Device.actuator joint m).Follows limits) :
    (b.externalStop = false ∧ (m.checked b).faulty = false ∧ (m.checked b).inHaltZone = false) ↔
      b.Startable limits joint := by
  obtain ⟨rfl, fitted, -⟩ := follows
  rw [faulty_checked_iff fitted]
  constructor
  · rintro ⟨line, ⟨cool, motor, logic, ⟨output, leg⟩, amplifier⟩, zone⟩
    have position := (inHaltZone_checked_iff output).mp zone
    exact ⟨line, cool, motor, logic, output, leg, amplifier, position⟩
  · rintro ⟨line, cool, motor, logic, output, leg, amplifier, position⟩
    exact ⟨line, ⟨cool, motor, logic, ⟨output, leg⟩, amplifier⟩,
      (inHaltZone_checked_iff output).mpr position⟩

end Actuator.Monitor

/-! ### The tick of the checks -/

/-- Checks that pass leave an actuator with its amplifier on, the current as it was, and nothing
latched. -/
theorem Mounted.enable_checked (p : Mounted SimBoard) {joint : Joint} {m : Actuator.Monitor}
    (device : p.device = .actuator joint m) :
    let q := Plant.enableOutputs (Machine.checked p)
    q.device.flags = ∅ ∧ q.board.amplifierEnabled = true ∧
      q.board.motorCurrent = p.board.motorCurrent := by
  obtain ⟨d, b⟩ := p
  obtain rfl : d = .actuator joint m := device
  exact ⟨rfl, rfl, rfl⟩

/-! ### The cycle of the checks -/

namespace Controller

/-- An actuator that has just got into `run`. -/
structure Launched (counter : UInt16) (c : Controller SimBoard) : Prop where
  state : c.machine.state = .run
  unlatched : c.device.flags = ∅
  live : c.board.amplifierEnabled = true
  still : c.board.motorCurrent = 0
  stall : c.machine.supervisor.master.errors = 0
  /-- The counter that the next one is compared with. -/
  reference : c.machine.supervisor.master.previous = counter

/-- An actuator that its checks have just sent to `error`. -/
structure Refused (c : Controller SimBoard) : Prop where
  state : c.machine.state = .error
  dwell : c.machine.supervisor.dwell = 0
  off : c.board.amplifierEnabled = false
  asserted : c.board.selfAsserted = true

variable {c : Controller SimBoard} {limits : Limits} {joint : Joint}

/-- **The checks of a cycle find nothing exactly on a board to start on.** -/
theorem findings_readied (sound : c.mounted.Sound limits joint.kind) (edge : Edge) :
    Machine.findings (Machine.checked (c.readied edge).mounted) = none ↔
      c.board.Startable limits joint := by
  obtain ⟨m, device⟩ := sound.actuator
  have follows : c.device.Follows limits := sound.device
  rw [device] at follows
  have reset : (c.readied edge).device.resetError = .actuator joint (m.checked c.board) := by
    rw [device_readied, device]
    rfl
  have line : Plant.lineAsserted (Machine.checked (c.readied edge).mounted) =
      c.board.externalStop := by
    have external : (c.readied edge).board.externalStop = c.board.externalStop :=
      congrArg Prod.snd (c.line_readied edge)
    show ((c.readied edge).board.externalStop || false) = _
    rw [external, Bool.or_false]
  have faulty : Plant.faulty (Machine.checked (c.readied edge).mounted) =
      (m.checked c.board).faulty := congrArg Device.faulty reset
  have zone : Plant.wantsHalt (Machine.checked (c.readied edge).mounted) =
      (m.checked c.board).inHaltZone := congrArg Device.wantsHalt reset
  rw [Machine.findings_eq_none, line, faulty, zone]
  exact Actuator.Monitor.startable_iff follows

/-- **A cycle that is commanded to run starts an idle actuator on a board to start on, and on no
other.** -/
theorem launches_or_refuses (sound : c.mounted.Sound limits joint.kind)
    (valid : c.data.layout.Valid) (idle : c.machine.state = .idle)
    (off : c.board.amplifierEnabled = false) (command : c.board.rx.command = some .run)
    (edge : Edge) :
    (c.board.Startable limits joint → (c.syncCycle edge).Launched c.board.rx.masterCounter) ∧
      (¬c.board.Startable limits joint → (c.syncCycle edge).Refused) := by
  have quiet := c.quiet_readied edge
  have here : (c.readied edge).machine.state = .idle := quiet.state.trans idle
  have way := (c.readied edge).tick_way
  obtain ⟨starts, refuses⟩ :=
    way.of_commanded here ((command_readied valid edge).trans command)
  have wiring := c.wiring_syncCycle edge
  have amplifier := SimBoard.amplifier_of_wiring wiring
  rw [← findings_readied sound edge]
  constructor
  · intro clear
    obtain ⟨running, plant⟩ := starts clear
    obtain ⟨m, device⟩ := (quiet.sound sound).actuator
    obtain ⟨unlatched, live, current⟩ := (c.readied edge).mounted.enable_checked device
    have away : (c.readied edge).machine.state ≠ .run := by simp [here]
    have master := way.master_of_entered away running
    have still : (c.readied edge).board.motorCurrent = 0 :=
      (congrArg Prod.snd quiet.amplifier).trans (sound.still off)
    refine ⟨running, ?_, ?_, ?_, congrArg Liveness.errors master, ?_⟩
    · exact (congrArg (fun p => p.device.flags) plant).trans unlatched
    · exact (congrArg Prod.fst amplifier).trans
        ((congrArg (fun p => p.board.amplifierEnabled) plant).trans live)
    · exact (congrArg Prod.snd amplifier).trans
        ((congrArg (fun p => p.board.motorCurrent) plant).trans (current.trans still))
    · exact (congrArg Liveness.previous master).trans (masterCounter_readied valid edge)
  · intro found
    obtain ⟨reason, found⟩ := Option.ne_none_iff_exists'.mp found
    obtain ⟨failed, plant⟩ := refuses found
    have away : (c.readied edge).machine.state ≠ .error := by simp [here]
    have follows := live_syncCycle sound (by rw [off, idle]; rfl) edge
    refine ⟨failed, way.dwell_of_entered away failed, ?_, ?_⟩
    · rw [follows, show (c.syncCycle edge).machine.state = .error from failed]
      rfl
    · exact (congrArg SimBoard.selfAsserted wiring).trans
        (congrArg (fun p => p.board.selfAsserted) plant)

/-- A pass that serves an edge finds the watchdog alive, and cycles. -/
theorem eq_of_synced {t : Transition} (synced : c.poll.1 = .ok (.synced t)) :
    ∃ edge rest, c.board.Alive ∧ c.board.edges = edge :: rest ∧
      c.poll.2 = { c with board := { c.board with edges := rest } }.syncCycle edge := by
  by_cases alive : c.board.Alive
  · cases queue : c.board.edges with
    | nil =>
        rw [poll_of_empty alive queue] at synced
        nomatch synced
    | cons edge rest =>
        rw [poll_of_edge alive queue]
        exact ⟨edge, rest, alive, rfl, rfl⟩
  · rw [poll_of_spent alive] at synced
    nomatch synced

end Controller

theorem Simulation.SimBoard.Startable.of_wiring {limits : Limits} {joint : Joint}
    {b b' : SimBoard} (h : b.Startable limits joint) (same : b'.wiring = b.wiring) :
    b'.Startable limits joint := by
  have erased : b.wiring.Startable limits joint := ⟨h.line, h.thermistors, h.motorVoltage,
    h.logicVoltage, h.outputEncoder, h.motorEncoder, h.amplifier, h.position⟩
  rw [← same] at erased
  exact ⟨erased.line, erased.thermistors, erased.motorVoltage, erased.logicVoltage,
    erased.outputEncoder, erased.motorEncoder, erased.amplifier, erased.position⟩

/-! ### Stations -/

namespace Simulation.Station

/--
**When an actuator starts.**

An idle leg or hip, whatever it has been through, follows a run command exactly if the board of that
cycle is one to start on.  What was latched before does not matter, and neither do the limit
switches.
-/
theorem start_condition {config : Config} (valid : config.Valid) {joint : Joint}
    (named : config.device.id.kind? = some joint.kind) {s : Station} (started : Started config s)
    (run : List Move) {t : Transition} (idle : (s.moves run).state = .idle)
    (synced : (s.moves run).poll.1 = .ok (.synced t))
    (command : (s.moves run).board.rx.command = some .run) :
    ((s.moves run).poll.2.state = .run ↔ (s.moves run).board.Startable config.limits joint) ∧
      ((s.moves run).board.Startable config.limits joint →
        (s.moves run).poll.2.controller.Launched (s.moves run).board.rx.masterCounter) ∧
      (¬(s.moves run).board.Startable config.limits joint →
        (s.moves run).poll.2.controller.Refused) := by
  have guarded := (started.guarded valid.limits named).moves run
  have layout : (s.moves run).controller.data.layout = joint.kind.layout := by
    obtain ⟨kind, begins⟩ := started.begins valid.limits
    obtain rfl : joint.kind = kind := Option.some.inj (named.symm.trans begins.named)
    rw [layout_moves, begins.layout]
  generalize s.moves run = s at *
  obtain ⟨edge, rest, alive, queue, polled⟩ := Controller.eq_of_synced synced
  have off : s.board.amplifierEnabled = false := by
    have unfailed := guarded.unfailed (congrArg Prod.fst (Controller.expired_of_alive alive))
    rw [guarded.live unfailed, idle]
    rfl
  let ready : Controller SimBoard :=
    { s.controller with board := { s.board with edges := rest } }
  have same : ready.board.Startable config.limits joint ↔ s.board.Startable config.limits joint :=
    ⟨fun h => h.of_wiring rfl, fun h => h.of_wiring rfl⟩
  have sound : ready.mounted.Sound config.limits joint.kind := guarded.sound.congr rfl id rfl rfl
  have fits : ready.data.layout.Valid := by
    rw [show ready.data.layout = joint.kind.layout from layout]
    exact joint.kind.layout_valid
  have ends := Controller.launches_or_refuses sound fits idle off command edge
  rw [← show s.poll.2.controller = ready.syncCycle edge from polled, same] at ends
  obtain ⟨launches, refuses⟩ := ends
  refine ⟨⟨?_, fun startable => (launches startable).state⟩, launches, refuses⟩
  intro running
  by_cases startable : s.board.Startable config.limits joint
  · exact startable
  · rw [show s.poll.2.state = .error from (refuses startable).state] at running
    nomatch running

/-- The motor encoder of an idle leg fails for one cycle, and works again when a run command
comes. -/
def recovered : List Move :=
  [.act (.encoderFault .motor true), .act .step, .poll, .act (.encoderFault .motor false),
    .act (.command State.run.toByte), .act .step]

/-- A leg starts with the failure of an earlier cycle still latched. -/
theorem start_condition_recovered : legConfig.Valid ∧
    legConfig.device.id.kind? = some Joint.leg.kind ∧ ∃ s, Started legConfig s ∧
      (s.moves recovered).state = .idle ∧
      (s.moves recovered).controller.device.flags.has .sensor = true ∧
      (s.moves recovered).poll.1 = .ok (.synced ⟨.idle, .run⟩) ∧
      (s.moves recovered).board.rx.command = some .run ∧
      (s.moves recovered).board.Startable legConfig.limits .leg ∧
      (s.moves recovered).poll.2.controller.Launched
        (s.moves recovered).board.rx.masterCounter := by
  have valid : legConfig.Valid := by decide
  have named : legConfig.device.id.kind? = some Joint.leg.kind := rfl
  obtain ⟨s, started, idle, latched, synced, command, startable⟩ : ∃ s, Started legConfig s ∧
      (s.moves recovered).state = .idle ∧
      (s.moves recovered).controller.device.flags.has .sensor = true ∧
      (s.moves recovered).poll.1.toOption = some (.synced ⟨.idle, .run⟩) ∧
      (s.moves recovered).board.rx.command = some .run ∧
      (s.moves recovered).board.Startable legConfig.limits .leg :=
    ⟨_, ⟨1000000, [], rfl⟩, by decide +kernel, by decide +kernel, by decide +kernel,
      by decide +kernel, by decide +kernel⟩
  have synced := ok_of_toOption synced
  obtain ⟨-, launches, -⟩ := start_condition valid named started recovered idle synced command
  exact ⟨valid, named, s, started, idle, latched, synced, command, startable, launches startable⟩

end Simulation.Station
end FieldbusNode
