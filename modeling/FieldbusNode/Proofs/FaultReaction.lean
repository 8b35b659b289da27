/-
A fault is answered in the cycle that sees it.

What counts as a fault is read off the board: `Device.Sees` lists it for each kind of
device, with the flag that stands for it.  Sampling such a board latches the flag, and
the header published in the same cycle is written after the sampling and before the
tick, so it carries the flag already.  The tick then finds a faulty device, and
`Machine.Way.of_faulty` leaves it one way to end.
-/
import FieldbusNode.Proofs.Latching
import FieldbusNode.Proofs.Publishing
import FieldbusNode.Proofs.Tick.Faults
namespace FieldbusNode

open Bench (Recorded)
open Simulation (SimBoard Station Move)

/-- What a device sees as a fault when it samples a board, and the flag that stands for it. -/
inductive Device.Sees (limits : Limits) (b : SimBoard) : Device → Flag → Prop
  | outputEncoder {joint : Joint} {m : Actuator.Monitor} (fault : b.encoderFaults.output = true) :
      Sees limits b (.actuator joint m) .sensor
  | motorEncoder {m : Actuator.Monitor} (fault : b.encoderFaults.motor = true) :
      Sees limits b (.actuator .leg m) .sensor
  | thermistor {joint : Joint} {m : Actuator.Monitor}
      (hot : ∃ t ∈ b.thermistors.toList, limits.thermistorMax < t) :
      Sees limits b (.actuator joint m) .thermistor
  | motorVoltage {joint : Joint} {m : Actuator.Monitor}
      (outside : b.motorVoltage < limits.motorVoltageMin ∨
        limits.motorVoltageMax < b.motorVoltage) :
      Sees limits b (.actuator joint m) .motorVoltage
  | logicVoltage {joint : Joint} {m : Actuator.Monitor}
      (outside : b.logicVoltage < limits.logicVoltageMin ∨
        limits.logicVoltageMax < b.logicVoltage) :
      Sees limits b (.actuator joint m) .logicVoltage
  | amplifier {joint : Joint} {m : Actuator.Monitor} (fault : b.amplifierFault = true) :
      Sees limits b (.actuator joint m) .amplifier
  /-- The debounce counts this sample too. -/
  | limitSwitch {joint : Joint} {m : Actuator.Monitor}
      (beyond : limits.limitSwitchLimit.toNat <
        (m.limitSwitch.sample (b.limitSwitches != 0)).count) :
      Sees limits b (.actuator joint m) .limitSwitch
  | boomEncoder {unit : Boom} {channel : EncoderChannel}
      (among : channel ∈ [EncoderChannel.boomPitch, .boomPan, .boomTilt])
      (fault : b.encoderFaults.get channel = true) : Sees limits b (.boom unit) .sensor
  | boomVoltage {unit : Boom}
      (outside : b.logicVoltage < limits.logicVoltageMin ∨
        limits.logicVoltageMax < b.logicVoltage) : Sees limits b (.boom unit) .logicVoltage
  | frame {unit : Imu} {e : Inertial.FrameError}
      (rejected : Inertial.Sample.decode (b.imu.outgoing.take Inertial.frameLength) = .error e) :
      Sees limits b (.imu unit) .sensor

/-! ### Sampling a fault -/

theorem Triple.any_eq_true {α : Type} (p : α → Bool) (t : Triple α) :
    t.any p = true ↔ ∃ a ∈ t.toList, p a = true := by
  simp [any, toList, or_assoc]

theorem Simulation.SimBoard.value?_of_encoderFault {b : SimBoard} {channel : EncoderChannel}
    (fault : b.encoderFaults.get channel = true) :
    Actuator.value? (b.readEncoder channel) = none := by
  simp [readEncoder, fault, Actuator.value?]

namespace Actuator.Monitor

theorem observe_of_evaluate {m : Monitor} {r : Readings} {flag : Flag}
    (fault : Flags.faultMask.has flag = true) (shows : (m.take r).evaluate.has flag = true) :
    (m.observe r).flags.has flag = true ∧ (m.observe r).faulty = true := by
  have latched : (m.observe r).flags.has flag = true := by
    simp only [observe, Flags.has_union, shows, Bool.or_true]
  refine ⟨latched, Flags.hasFault_of_has ?_ fault⟩
  rw [Flags.has_union, latched, Bool.true_or]

end Actuator.Monitor

theorem Simulation.SimBoard.encoderFailures_of_fault {b : SimBoard} {channel : EncoderChannel}
    (among : channel ∈ [EncoderChannel.boomPitch, .boomPan, .boomTilt])
    (fault : b.encoderFaults.get channel = true) : b.boomReadings.encoderFailures ≠ [] := by
  intro none
  have read := List.filterMap_eq_nil_iff.mp none (channel, b.readEncoder channel) (by
    simp only [List.mem_cons, List.not_mem_nil, or_false] at among
    rcases among with rfl | rfl | rfl <;> simp [boomReadings])
  simp [readEncoder, fault] at read

namespace Boom

variable (boom : Boom) {r : BoomReadings}

theorem sensor_observe (failed : r.encoderFailures ≠ []) :
    (boom.observe r).flags.has .sensor = true := by
  have counted : (!r.encoderFailures.isEmpty || (Actuator.value? r.logicVoltage).isNone) = true := by
    simp [failed]
  unfold observe
  simp only [counted, if_true]
  split <;> simp

theorem logicVoltage_observe {v : UInt16} (read : r.logicVoltage = .ok v)
    (outside : v < boom.limits.logicVoltageMin ∨ boom.limits.logicVoltageMax < v) :
    (boom.observe r).flags.has .logicVoltage = true := by
  unfold observe
  simp [read, Actuator.value?, logicOutside, outside]

theorem faulty_of_has {boom : Boom} {flag : Flag} (h : boom.flags.has flag = true)
    (fault : Flags.faultMask.has flag = true) : boom.faulty = true := by
  rw [faulty, Flags.hasFault_of_has h fault, Bool.true_or]

end Boom

theorem Imu.sensor_observe (unit : Imu) {bytes : List UInt8} {e : Inertial.FrameError}
    (rejected : Inertial.Sample.decode (bytes.take Inertial.frameLength) = .error e) :
    (unit.observe (.ok bytes)).1.flags.has .sensor = true := by
  unfold observe store
  simp [rejected, reject]

namespace Device

variable {limits : Limits} {b : SimBoard} {d : Device} {flag : Flag}

theorem Sees.fault (sees : Sees limits b d flag) : Flags.faultMask.has flag = true := by
  cases sees <;> rfl

/-- What an actuator sees is in the judgement of its sample. -/
theorem Sees.shows {joint : Joint} {m : Actuator.Monitor}
    (sees : Sees limits b (.actuator joint m) flag)
    (follows : (Device.actuator joint m).Follows limits) :
    ((m.take (b.actuatorReadings m.motorEncoder)).judge
      (b.actuatorReadings m.motorEncoder).sample).has flag = true := by
  obtain ⟨made, fitted, limit⟩ := follows
  cases sees with
  | outputEncoder failed =>
      have missing : Actuator.value? (b.readEncoder .output) = none :=
        SimBoard.value?_of_encoderFault failed
      show ((Actuator.value? (b.readEncoder .output)).isNone || _) = true
      rw [missing]
      rfl
  | motorEncoder failed =>
      have fitted : m.motorEncoder = true := fitted
      have missing : Actuator.value? (b.readEncoder .motor) = none :=
        SimBoard.value?_of_encoderFault failed
      show (_ || (m.motorEncoder && (Option.bind (if m.motorEncoder then
        some (b.readEncoder .motor) else none) Actuator.value?).isNone)) = true
      simp [fitted, missing]
  | thermistor hot =>
      show b.thermistors.any (m.limits.thermistorMax < ·) = true
      rw [made, Triple.any_eq_true]
      simpa using hot
  | motorVoltage outside =>
      show (decide (b.motorVoltage < m.limits.motorVoltageMin) ||
        decide (m.limits.motorVoltageMax < b.motorVoltage)) = true
      simpa [made] using outside
  | logicVoltage outside =>
      show (decide (b.logicVoltage < m.limits.logicVoltageMin) ||
        decide (m.limits.logicVoltageMax < b.logicVoltage)) = true
      simpa [made] using outside
  | amplifier failed => exact failed
  | limitSwitch beyond =>
      show decide (m.limitSwitch.limit < (m.limitSwitch.sample (b.limitSwitches != 0)).count) = true
      simpa [limit] using beyond

theorem Sees.boom_latched {unit : Boom} (sees : Sees limits b (.boom unit) flag)
    (follows : (Device.boom unit).Follows limits) :
    (unit.observe b.boomReadings).flags.has flag = true := by
  have made : unit.limits = limits := follows
  cases sees with
  | boomEncoder among failed =>
      exact unit.sensor_observe (SimBoard.encoderFailures_of_fault among failed)
  | boomVoltage outside =>
      rw [← made] at outside
      exact unit.logicVoltage_observe rfl outside

theorem Sees.imu_latched {unit : Imu} (sees : Sees limits b (.imu unit) flag) :
    (unit.observe b.imuReading).1.flags.has flag = true := by
  cases sees with
  | frame rejected => exact unit.sensor_observe (by rwa [List.take_take, Nat.min_self])

/-- **A device that sees a fault latches its flag and is faulty.** -/
theorem Sees.sampled (sees : Sees limits b d flag) (follows : d.Follows limits) :
    (d.sampled b).flags.has flag = true ∧ (d.sampled b).faulty = true := by
  have fault := sees.fault
  cases d with
  | actuator joint m => exact Actuator.Monitor.observe_of_evaluate fault (sees.shows follows)
  | boom unit =>
      have latched := sees.boom_latched follows
      exact ⟨latched, Boom.faulty_of_has latched fault⟩
  | imu unit =>
      have latched := sees.imu_latched
      exact ⟨latched, Flags.hasFault_of_has latched fault⟩

end Device

/-! ### The tick of a fault -/

namespace Mounted

variable (p : Mounted SimBoard)

theorem device_noteAll (events : List Event) : (Journal.noteAll events p).device = p.device :=
  Journal.noteAll_leaves (f := Mounted.device) (fun _ _ => rfl) events p

theorem flags_disableOutputs : (Plant.disableOutputs p).device.flags = p.device.flags := by
  obtain ⟨device, b⟩ := p
  cases device <;> rfl

theorem flags_estop : (Plant.estop p).device.flags = p.device.flags.raise .estop := by
  obtain ⟨device, b⟩ := p
  cases device <;> rfl

end Mounted

namespace Controller

/-- A device that was stopped because of a fault, and a machine that has just gone to `error`. -/
structure Stopped (flag : Flag) (c : Controller SimBoard) : Prop where
  state : c.machine.state = .error
  dwell : c.machine.supervisor.dwell = 0
  off : c.board.amplifierEnabled = false
  still : c.board.motorCurrent = 0
  asserted : c.board.selfAsserted = true
  estop : c.device.flags.has .estop = true
  latched : c.device.flags.has flag = true

variable {c : Controller SimBoard} {limits : Limits} {kind : Kind} {flag : Flag}

theorem tickHooks_of_faulty (live : c.machine.state = .run ∨ c.machine.state = .halt)
    (faulty : c.device.faulty = true) :
    c.tickHooks = [.disableOutputs, .estop, .assertLine] := by
  have frank : Machine.Frank (Recorded (Mounted SimBoard)) := fun _ _ => rfl
  have way := Machine.tick_way c.machine c.data (⟨c.mounted, []⟩ : Recorded (Mounted SimBoard))
  obtain ⟨-, -, before, after, called⟩ := way.of_faulty frank live faulty
  rw [tickHooks, called]
  simp

/-- A tick that meets a fault stops the device. -/
theorem stopped_tick (sound : c.mounted.Sound limits kind)
    (live : c.machine.state = .run ∨ c.machine.state = .halt) (faulty : c.device.faulty = true)
    (latched : c.device.flags.has flag = true) : c.tick.Stopped flag := by
  have frank : Machine.Frank (Mounted SimBoard) := fun _ _ => rfl
  have kept := c.tick_way.keeps Mounted.sound_keeps sound
  obtain ⟨state, dwell, before, after, called⟩ := c.tick_way.of_faulty frank live faulty
  generalize halted : Journal.noteAll after
    (Plant.disableOutputs (Journal.noteAll before c.mounted)) = p at called
  have flags : p.device.flags = c.device.flags := by
    rw [← halted, Mounted.device_noteAll, Mounted.flags_disableOutputs, Mounted.device_noteAll]
    rfl
  have device : c.tick.device = (Plant.estop p).device := by
    have parts := congrArg Mounted.device called
    exact parts
  have asserted : c.tick.board.selfAsserted = true := by
    have parts := congrArg (fun q : Mounted SimBoard => q.board.selfAsserted) called
    exact parts
  have raised : c.tick.device.flags = c.device.flags.raise .estop := by
    rw [device, Mounted.flags_estop, flags]
  -- A sound device knows whether its amplifier is on, and this one knows that it is off.
  have off : c.tick.board.amplifierEnabled = false := by
    refine kept.outputs.symm.trans ?_
    show c.tick.device.outputsEnabled = false
    rw [device, Mounted.outputsEnabled_estop]
  refine ⟨state, dwell, off, kept.still off, asserted, ?_, ?_⟩
  · rw [raised, Flags.has_raise, decide_eq_true rfl, Bool.or_true]
  · rw [raised, Flags.has_raise, latched, Bool.true_or]

theorem Stopped.recordCycle (stopped : c.Stopped flag) (edge : Edge) (sinceEdge : Nat) :
    (c.recordCycle edge sinceEdge).Stopped flag := by
  have wiring := c.wiring_recordCycle edge sinceEdge
  have amplifier := SimBoard.amplifier_of_wiring wiring
  have own := congrArg SimBoard.selfAsserted wiring
  exact ⟨stopped.state, stopped.dwell, (congrArg Prod.fst amplifier).trans stopped.off,
    (congrArg Prod.snd amplifier).trans stopped.still, own.trans stopped.asserted, stopped.estop,
    stopped.latched⟩

/-! ### The pass of a fault -/

/-- A pass that answers a fault, from the controller before it to the one behind it. -/
structure Answers (flag : Flag) (c c' : Controller SimBoard) : Prop where
  stopped : c'.Stopped flag
  /-- No current was commanded, neither the inbound one nor that of the halt controller. -/
  hooks : c.passHooks = [.disableOutputs, .estop, .assertLine]
  once : c'.board.txWrites = c.board.txWrites + 1
  header : c'.board.tx.headerFlags.has flag = true

/-- **A pass that sees a fault answers it.** -/
theorem Pass.answers {t : Transition} {c' : Controller SimBoard} (pass : Pass c (.ok (.synced t)) c')
    (sound : c.mounted.Sound limits kind) (valid : c.data.layout.Valid)
    (live : c.machine.state = .run ∨ c.machine.state = .halt)
    (sees : c.device.Sees limits c.board flag) : t.target = .error ∧ Answers flag c c' := by
  cases pass with
  | @syncs ready edge alive cycle =>
      have hooks : c.passHooks = (ready.readied edge).tickHooks := by rw [passHooks, cycle]
      have quiet := (quiet_cycle? cycle).trans (ready.quiet_readied edge)
      obtain ⟨rest, -, -, made⟩ := eq_of_cycle? cycle
      have sampled : (ready.readied edge).device = c.device.sampled c.board := by
        rw [device_readied, made]
        exact Device.sampled_of_wiring (SimBoard.wiring_latchWatchdog c.board) c.device
      obtain ⟨header, once⟩ := ready.published_readied (by rwa [made]) edge
      have writes : ready.board.txWrites = c.board.txWrites := by
        rw [made]
        exact congrArg Prod.snd (SimBoard.published_of_wiring
          (SimBoard.wiring_latchWatchdog c.board))
      obtain ⟨latched, faulty⟩ := sees.sampled sound.device
      rw [← sampled] at latched faulty
      have live : (ready.readied edge).machine.state = .run ∨
          (ready.readied edge).machine.state = .halt := by rwa [quiet.state]
      have published := (SimBoard.published_of_wiring (ready.wiring_syncCycle edge)).trans
        (ready.readied edge).published_tick
      have stopped := stopped_tick (quiet.sound sound) live faulty latched
      refine ⟨stopped.state, stopped.recordCycle edge _, ?_, ?_, ?_⟩
      · rw [hooks, tickHooks_of_faulty live faulty]
      · rw [← writes, ← once]
        exact congrArg Prod.snd published
      · have tx : (ready.syncCycle edge).board.tx = (ready.readied edge).board.tx :=
          congrArg Prod.fst published
        rw [tx, header]
        exact latched

end Controller

namespace Simulation.Station

/--
**A fault in `run` or `halt` is answered in the cycle that sees it.**

Whatever else that cycle finds, a stop line, a stalled master or any command, it ends in
`error` with the dwell at its start.  The outputs are off without current, this device
asserts the stop line, and its flags show the emergency stop and the fault.  The tick
called nothing but what brought this about, and the one header that the cycle published
shows the fault already.
-/
theorem fault_answered {config : Config} (valid : config.Valid) {s : Station}
    (started : Started config s) (run : List Move) {t : Transition} {flag : Flag}
    (live : (s.moves run).state = .run ∨ (s.moves run).state = .halt)
    (synced : (s.moves run).poll.1 = .ok (.synced t))
    (sees : (s.moves run).controller.device.Sees config.limits (s.moves run).board flag) :
    t.target = .error ∧
      Controller.Answers flag (s.moves run).controller (s.moves run).poll.2.controller := by
  obtain ⟨kind, begins⟩ := started.begins valid.limits
  have sound := sound_moves begins.sound run
  have layout : (s.moves run).controller.data.layout = kind.layout := by
    rw [layout_moves, begins.layout]
  have pass := (s.moves run).controller.poll_pass
  have outcome : (s.moves run).controller.poll.1 = .ok (.synced t) := synced
  rw [outcome] at pass
  exact pass.answers sound (by rw [layout]; exact kind.layout_valid) live sees

/-- A hip under the default settings. -/
def hipConfig : Config where
  shared := { serviceName := "hip" }
  device := { id := ⟨0x20⟩ }

/-- Two cycles with a current, then a motor that is too hot, while somebody else asserts the stop
line and the master asks for a reset. -/
def overheated : List Move :=
  [.act (.command State.run.toByte), .act (.setInbound Inbound.motorCurrent .i32 20000),
    .act .step, .poll, .act .step, .poll, .act (.thermistor 1 3001), .act (.externalStop true),
    .act (.command State.reset.toByte), .act .step]

/-- A hip drives its motor, and answers the fault in the next pass. -/
theorem fault_answered_overheated :
    hipConfig.Valid ∧ ∃ s, Started hipConfig s ∧ (s.moves overheated).state = .run ∧
      (s.moves overheated).board.motorCurrent = 20000 ∧
      (s.moves overheated).poll.1 = .ok (.synced ⟨.run, .error⟩) ∧
      (s.moves overheated).controller.device.Sees hipConfig.limits (s.moves overheated).board
        .thermistor ∧
      Controller.Answers .thermistor (s.moves overheated).controller
        (s.moves overheated).poll.2.controller := by
  have valid : hipConfig.Valid := by decide
  have named : hipConfig.device.id.kind? = some Joint.hip.kind := rfl
  obtain ⟨s, started, runs, drives, synced, hot⟩ : ∃ s, Started hipConfig s ∧
      (s.moves overheated).state = .run ∧ (s.moves overheated).board.motorCurrent = 20000 ∧
      (s.moves overheated).poll.1.toOption = some (.synced ⟨.run, .error⟩) ∧
      3001 ∈ (s.moves overheated).board.thermistors.toList :=
    ⟨_, ⟨1000000, [], rfl⟩, by decide +kernel, by decide +kernel, by decide +kernel,
      by decide +kernel⟩
  have synced := ok_of_toOption synced
  have sees : (s.moves overheated).controller.device.Sees hipConfig.limits
      (s.moves overheated).board .thermistor := by
    obtain ⟨m, device⟩ := started.device_moves valid.limits named overheated
    rw [device]
    exact .thermistor ⟨3001, hot, by decide⟩
  obtain ⟨-, answers⟩ := fault_answered valid started overheated (Or.inl runs) synced sees
  exact ⟨valid, s, started, runs, drives, synced, sees, answers⟩

end Simulation.Station
end FieldbusNode
