/-
A calm controller keeps running.

A fit device on a board with a clear line and an accepting amplifier gives a tick no reason
to leave `run`, and none not to get there (`Mounted.Willing`).  A cycle on a healthy board
finds such a device, and leaves one that has latched nothing, so the next cycle finds one
too: `Controller.Calm` is kept by every cycle on a healthy board under a run command
(`Controller.Calm.syncCycle`), and a controller that has just started is calm.
-/
import FieldbusNode.Proofs.Header
import FieldbusNode.Proofs.Health
import FieldbusNode.Proofs.Inbound
import FieldbusNode.Proofs.Outputs
import FieldbusNode.Proofs.PreRunChecks
namespace FieldbusNode

open Simulation (SimBoard)

/-! ### One tick -/

namespace Machine

section Plant

variable {σ : Type} [Plant σ] {m m' : Machine} {data : ProcessData} {s s' : σ}

theorem decision_eq_none (command : data.command = some .run)
    (lively : (m.supervisor.observeMaster data.masterCounter).masterStalled = false)
    (untripped : m.supervisor.stopLineTripped = false)
    (faultless : Plant.faulty (m.watched data s) = false)
    (inside : Plant.wantsHalt (m.watched data s) = false) : m.decision data s = none := by
  rw [decision, lively, untripped, faultless, inside, command]
  rfl

/-- A running machine that finds no reason to leave stays in `run` and applies the record. -/
theorem Way.stays (way : Way m data s m' s') (here : m.state = .run)
    (decided : m.decision data s = none) :
    m' = m.counted.observed data ∧ s' = Plant.updateOutputs data (m.watched data s) := by
  cases way with
  | runs => exact ⟨rfl, rfl⟩
  | starts checking | refuses checking => cases checking <;> simp_all
  | trips halting | breaks halting | halts halting | givesUp halting =>
      cases halting <;> simp_all
  | _ => simp_all

end Plant

end Machine

/-- A device and its board give a tick no reason not to run. -/
structure Mounted.Willing (p : Mounted SimBoard) : Prop where
  fit : p.device.Fit
  line : p.board.line = (false, false)
  accepts : p.board.amplifierReject = false

/-- A device has latched nothing, and asserts no line. -/
structure Mounted.Undisturbed (p : Mounted SimBoard) : Prop where
  clean : p.device.Clean
  line : p.board.line = (false, false)

namespace Machine

variable {m m' : Machine} {data : ProcessData} {p p' : Mounted SimBoard}

/-- An idle machine follows a run command. -/
theorem Way.starts_of_willing (way : Way m data p m' p') (willing : p.Willing)
    (idle : m.state = .idle) (command : data.command = some .run) :
    m'.state = .run ∧ p'.Undisturbed := by
  have reset := willing.fit.resetError
  have external : p.board.externalStop = false := congrArg Prod.snd willing.line
  have clear : findings (checked p) = none := by
    have line : Plant.lineAsserted (checked p) = false := by
      show (p.board.externalStop || false) = false
      rw [external]
      rfl
    have faulty : Plant.faulty (checked p) = false := reset.faulty
    have wantsHalt : Plant.wantsHalt (checked p) = false := reset.wantsHalt
    exact findings_eq_none.mpr ⟨line, faulty, wantsHalt⟩
  obtain ⟨running, rfl⟩ := (way.of_commanded idle command).1 clear
  refine ⟨running, reset.clean.enable _, ?_⟩
  have wired := Mounted.wired.enableOutputs (checked p)
  have line : (checked p).line = (false, false) := congrArg (Prod.mk false) external
  exact wired.trans line

/-- A running machine stays, and live outputs carry what the clamp leaves of the commanded
current. -/
theorem Way.stays_of_willing (way : Way m data p m' p') (willing : p.Willing)
    (here : m.state = .run) (command : data.command = some .run)
    (lively : (m.supervisor.observeMaster data.masterCounter).masterStalled = false)
    (untripped : m.supervisor.stopLineTripped = false) :
    m'.state = .run ∧ p'.Undisturbed ∧ ∀ joint monitor, p.device = .actuator joint monitor →
      0 ≤ monitor.limits.maxMotorCurrent.toInt → monitor.outputsEnabled = true →
      p.board.amplifierEnabled = true →
      p'.board.motorCurrent.toInt = max (-monitor.limits.maxMotorCurrent.toInt)
        (min monitor.limits.maxMotorCurrent.toInt data.currentCommand.toInt) := by
  -- Watching the master leaves no more than notes.
  have device : (m.watched data p).device = p.device := Mounted.device_noteAll p _
  have wiring : (m.watched data p).board.wiring = p.board.wiring :=
    Journal.noteAll_leaves (f := fun p : Mounted SimBoard => p.board.wiring) (fun _ _ => rfl) _ p
  have accepts : (m.watched data p).board.amplifierReject = false := by
    have erased := congrArg SimBoard.amplifierReject wiring
    exact erased.trans willing.accepts
  have enabled : (m.watched data p).board.amplifierEnabled = p.board.amplifierEnabled :=
    congrArg Prod.fst (SimBoard.amplifier_of_wiring wiring)
  have line : (m.watched data p).board.line = (false, false) :=
    (SimBoard.line_of_wiring wiring).trans willing.line
  have faultless : Plant.faulty (m.watched data p) = false :=
    (congrArg Device.faulty device).trans willing.fit.faulty
  have inside : Plant.wantsHalt (m.watched data p) = false :=
    (congrArg Device.wantsHalt device).trans willing.fit.wantsHalt
  obtain ⟨rfl, rfl⟩ := way.stays here
    (decision_eq_none command lively untripped faultless inside)
  have clean := willing.fit.clean
  generalize m.watched data p = q at *
  obtain ⟨d, b⟩ := q
  obtain rfl : d = p.device := device
  refine ⟨here, ⟨?_, ?_⟩, ?_⟩
  · exact clean.updateOutputs data accepts
  · exact (Mounted.wired.updateOutputs data _).trans line
  · intro joint monitor made order outputs live
    rw [← enabled] at live
    show (Device.updateOutputs p.device data b).2.motorCurrent.toInt = _
    rw [made]
    exact Actuator.Monitor.commandCurrent_of_live order data.currentCommand accepts outputs live

end Machine
/-! ### One cycle -/

theorem Simulation.SimBoard.imu_of_wiring {b b' : SimBoard} (h : b'.wiring = b.wiring) :
    b'.imu = b.imu := by
  have erased := congrArg imu h
  exact erased

theorem Actuator.Monitor.Driven.imu {m m' : Monitor} {b b' : SimBoard}
    (driven : m.Driven b m' b') : b'.imu = b.imu := by
  cases driven with
  | rests | traps | takes => rfl
  | refused => exact SimBoard.imu_of_wiring (SimBoard.wiring_noteIf b _ _)

/-- What an action makes of an inertial sensor: nothing but a disturbance and another sample. -/
def Simulation.Sensor.act (s : Simulation.Sensor) : Simulation.Action → Simulation.Sensor
  | .imuSample sample => { s with sample }
  | .imuDisturb fault => { s with pending := fault }
  | _ => s

theorem Simulation.Sensor.outgoing_act (s : Simulation.Sensor) (action : Simulation.Action) :
    (s.act action).outgoing = s.outgoing := by
  cases action <;> rfl

theorem Simulation.Rig.imu_act (rig : Simulation.Rig) (action : Simulation.Action) :
    (rig.act action).board.imu = rig.board.imu.act action := by
  cases action with
  | step =>
      have stepped := (SimBoard.wiring_pushEdge _).trans (SimBoard.wiring_advance
        { rig.board with rx := rig.master.prepared.rx } rig.master.prepared.period)
      exact SimBoard.imu_of_wiring stepped
  | advance nanos => exact SimBoard.imu_of_wiring (SimBoard.wiring_advance _ _)
  | setInbound f t value =>
      simp only [act]
      split <;> rfl
  | _ => rfl

/-- No hook touches the inertial sensor. -/
theorem Mounted.imu_keeps (sensor : Simulation.Sensor) :
    Plant.Keeps fun p : Mounted SimBoard => p.board.imu = sensor :=
  board_keeps (fun _ _ h => h) (fun _ _ h => h) (fun driven h => driven.imu.trans h)
    (fun _ _ h => h)

namespace Controller

/-- Behind its tick a cycle finds the inertial sensor as it was before. -/
theorem imu_syncCycle (c : Controller SimBoard) (edge : Edge) :
    (c.syncCycle edge).board.imu = (c.readied edge).board.imu := by
  have kept := (c.readied edge).tick_way.keeps (Mounted.imu_keeps (c.readied edge).board.imu) rfl
  exact (SimBoard.imu_of_wiring (c.wiring_syncCycle edge)).trans kept

/-- What neither notes nor a feed touch, and neither the inertial sensor nor sending a record has to
do with, is the same when the tick comes as it was when the inputs were sampled. -/
theorem readied_leaves {α : Type} {f : SimBoard → α}
    (noted : ∀ (e : Event) (b : SimBoard), f (Journal.note e b) = f b)
    (fed : ∀ b : SimBoard, f b.feed = f b)
    (sensor : ∀ (b : SimBoard) (imu : Simulation.Sensor), f { b with imu } = f b)
    (sent : ∀ (bytes : List UInt8) (b : SimBoard), f (Board.send bytes b) = f b)
    (c : Controller SimBoard) (edge : Edge) :
    f (c.readied edge).board = f (c.inputsSampled edge).board := by
  have exchanged (c : Controller SimBoard) : f c.exchange.board = f c.board := sent _ _
  have asked (c : Controller SimBoard) : f c.afterExchange.board = f c.board := by
    obtain ⟨board, device, _, _, _, _, _, _, _, _⟩ := c
    cases device with
    | imu => exact sensor _ _
    | actuator | boom => rfl
  have fed (c : Controller SimBoard) : f (c.feed true).board = f c.board := fed c.board
  have sampledLine (c : Controller SimBoard) : f c.sampleStopLine.board = f c.board :=
    Journal.noteAll_leaves noted _ c.board
  rw [readied, sampledLine, fed, asked, exchanged]
  rfl

/-- What failed checks do not touch either is the same when the tick comes as before the cycle. -/
theorem readied_spares {α : Type} {f : SimBoard → α}
    (noted : ∀ (e : Event) (b : SimBoard), f (Journal.note e b) = f b)
    (trapped : ∀ (t : Trap) (b : SimBoard), f (Journal.trap t b) = f b)
    (fed : ∀ b : SimBoard, f b.feed = f b)
    (sensor : ∀ (b : SimBoard) (imu : Simulation.Sensor), f { b with imu } = f b)
    (sent : ∀ (bytes : List UInt8) (b : SimBoard), f (Board.send bytes b) = f b)
    (c : Controller SimBoard) (edge : Edge) : f (c.readied edge).board = f c.board := by
  have sampled : f (c.inputsSampled edge).board = f (c.accountEdge edge).board :=
    (c.accountEdge edge).device.updateInputs_leaves _ _ _ noted trapped fun b => sensor b _
  exact (readied_leaves noted fed sensor sent c edge).trans
    (sampled.trans (accountEdge_leaves noted trapped c edge))

/-- An inertial measurement unit asks for its next frame once in a cycle, before the tick. -/
theorem imu_readied {c : Controller SimBoard} {unit : Imu} (device : c.device = .imu unit)
    (edge : Edge) : (c.readied edge).board.imu = c.board.imu.pulse := by
  let sampled := (c.accountEdge edge).sampleInputs (Board.sinceEdge (c.accountEdge edge).board)
  -- A pulse does not look at what was sent before it, so what was fetched does not matter.
  have fetched : sampled.board.imu.pulse = c.board.imu.pulse := by
    have accounted := SimBoard.imu_of_wiring (c.wiring_accountEdge edge)
    rw [← accounted]
    rcases c.device.wiring_updateInputs (Board.sinceEdge (c.accountEdge edge).board) c.data
        (c.accountEdge edge).board with same | fetched
    · exact congrArg Simulation.Sensor.pulse (SimBoard.imu_of_wiring same)
    · have emptied := congrArg Simulation.Sensor.pulse (SimBoard.imu_of_wiring fetched)
      exact emptied
  have asks {c : Controller SimBoard} {unit : Imu} (device : c.device = .imu unit) :
      c.afterExchange.board.imu = c.board.imu.pulse := by
    unfold afterExchange
    rw [device]
    rfl
  have device : sampled.exchange.device =
      .imu (unit.observe (c.accountEdge edge).board.imuReading).1 := by
    have taken : sampled.exchange.device = c.device.sampled (c.accountEdge edge).board :=
      Device.device_updateInputs _ _ _ _
    rw [taken, device]
    rfl
  have later : (c.readied edge).board.imu = sampled.exchange.afterExchange.board.imu :=
    SimBoard.imu_of_wiring ((SimBoard.wiring_noteAll _ _).trans (SimBoard.wiring_feed _))
  rw [later, asks device, ← fetched]
  rfl

/-- An inertial sensor that nothing disturbs has the next frame ready when the tick comes. -/
theorem ready_readied {c : Controller SimBoard} (kind : c.device.kind = .imu)
    (undisturbed : c.board.imu.pending = .none) (edge : Edge) :
    (c.readied edge).board.imu.Ready := by
  obtain ⟨unit, device⟩ : ∃ unit, c.device = .imu unit := by
    generalize c.device = d at kind
    cases d with
    | actuator joint => cases joint <;> nomatch kind
    | boom => nomatch kind
    | imu unit => exact ⟨unit, rfl⟩
  rw [imu_readied device]
  exact c.board.imu.ready_pulse undisturbed

/-- A controller that has latched nothing, whose device and line are at rest, and that runs or is
about to. -/
structure Calm (limits : Limits) (kind : Kind) (c : Controller SimBoard) : Prop where
  sound : c.mounted.Sound limits kind
  clean : c.device.Clean
  framed : kind = .imu → c.board.imu.Ready
  own : c.board.selfAsserted = false
  count : c.machine.supervisor.stopLine.count = 0
  live : ∀ joint : Joint, joint.kind = kind →
    c.board.amplifierEnabled = c.machine.state.outputsLive
  layout : c.data.layout = kind.layout
  state : c.machine.state = .idle ∨ c.machine.state = .run

variable {c : Controller SimBoard} {limits : Limits} {kind : Kind}

/-- The tick of a cycle on a healthy board finds no reason not to run. -/
theorem Calm.willing (h : c.Calm limits kind) (healthy : c.board.Healthy limits) (edge : Edge) :
    (c.readied edge).mounted.Willing := by
  have follows : c.device.Follows limits := h.sound.device
  have same : c.device.kind = kind := h.sound.kind
  refine ⟨?_, ?_, ?_⟩
  · show (c.readied edge).device.Fit
    rw [device_readied]
    exact h.clean.sampled follows healthy fun imu => h.framed (same.symm.trans imu)
  · have line : c.board.line = (false, false) := congrArg₂ Prod.mk h.own healthy.line
    exact (c.line_readied edge).trans line
  · have fed (b : SimBoard) : b.feed.amplifierReject = b.amplifierReject := by
      have erased := congrArg SimBoard.amplifierReject (SimBoard.wiring_feed b)
      exact erased
    have kept : (c.readied edge).board.amplifierReject = c.board.amplifierReject :=
      readied_spares (fun _ _ => rfl) (fun _ _ => rfl) fed (fun _ _ => rfl) (fun _ _ => rfl) c edge
    exact kept.trans healthy.accepts

/-- The tick of such a cycle. -/
theorem Calm.tick (h : c.Calm limits kind) (valid : limits.Valid)
    (healthy : c.board.Healthy limits) (command : c.board.rx.command = some .run)
    (lively : c.machine.state = .run →
      (c.machine.supervisor.observeMaster c.board.rx.masterCounter).masterStalled = false)
    (edge : Edge) :
    (c.readied edge).tick.machine.state = .run ∧ (c.readied edge).tick.mounted.Undisturbed ∧
      (c.readied edge).tick.machine.supervisor.stopLine.count = 0 ∧
      ∀ joint : Joint, joint.kind = kind → c.machine.state = .run →
        (c.readied edge).tick.board.motorCurrent.toInt = max (-limits.maxMotorCurrent.toInt)
          (min limits.maxMotorCurrent.toInt c.board.rx.motorCurrent.toInt) := by
  have layout : c.data.layout.Valid := by
    rw [h.layout]
    exact kind.layout_valid
  have willing := h.willing healthy edge
  have way := (c.readied edge).tick_way
  have command : (c.readied edge).data.command = some .run := by
    rw [command_readied layout]
    exact command
  have counter := masterCounter_readied layout edge
  have quiet : Board.lineAsserted (c.fed edge).board = false := by
    have line := c.line_fed edge
    have own : (c.fed edge).board.selfAsserted = c.board.selfAsserted := congrArg Prod.fst line
    have external : (c.fed edge).board.externalStop = c.board.externalStop :=
      congrArg Prod.snd line
    show ((c.fed edge).board.externalStop || (c.fed edge).board.selfAsserted) = false
    rw [own, external, h.own, healthy.line]
    rfl
  have sampled := c.machine_readied edge
  rw [quiet] at sampled
  have count : (c.machine.sampled false).supervisor.stopLine.count = 0 := by
    show c.machine.supervisor.stopLine.count - 1 = 0
    rw [h.count]
  have untripped : (c.machine.sampled false).supervisor.stopLineTripped = false := by
    show decide (_ < (c.machine.sampled false).supervisor.stopLine.count) = false
    rw [count]
    exact decide_eq_false (Nat.not_lt_zero _)
  rw [sampled] at way
  have working : (c.machine.sampled false).state ≠ .reset := by
    show c.machine.state ≠ .reset
    rcases h.state with idle | running
    · simp [idle]
    · simp [running]
  have kept := (congrArg Debounce.count (way.stopLine_eq working)).trans count
  rcases h.state with idle | running
  · obtain ⟨run, undisturbed⟩ := way.starts_of_willing willing idle command
    exact ⟨run, undisturbed, kept, fun _ _ here => nomatch idle.symm.trans here⟩
  · obtain ⟨run, undisturbed, carries⟩ := way.stays_of_willing willing running command
      (by rw [counter]; exact lively running) untripped
    refine ⟨run, undisturbed, kept, ?_⟩
    intro joint driven _
    have quiet := c.quiet_readied edge
    have sound : (c.readied edge).mounted.Sound limits joint.kind := by
      rw [driven]
      exact quiet.sound h.sound
    obtain ⟨m, device⟩ := sound.actuator
    have follows : (c.readied edge).device.Follows limits := sound.device
    have outputs : (c.readied edge).device.outputsEnabled = (c.readied edge).board.amplifierEnabled :=
      sound.outputs
    rw [device] at follows outputs
    obtain ⟨rfl, -, -⟩ := follows
    have live : (c.readied edge).board.amplifierEnabled = true := by
      have before := h.live joint driven
      rw [running] at before
      exact (congrArg Prod.fst quiet.amplifier).trans before
    have inside : Inbound.motorCurrent.stop ≤ c.data.layout.rxSize := by
      rw [h.layout, ← driven]
      cases joint <;> exact Nat.le_refl _
    rw [← currentCommand_readied layout edge inside]
    exact carries joint m device (Int.le_of_lt (Int.lt_of_lt_of_le valid.haltClamp valid.clamp))
      (outputs.trans live) live

/-- **A cycle on a healthy board under a run command ends in `run`, and leaves a calm controller.**
From `run` the motor of an actuator gets what the clamp leaves of the commanded current. -/
theorem Calm.syncCycle (h : c.Calm limits kind) (valid : limits.Valid)
    (healthy : c.board.Healthy limits) (command : c.board.rx.command = some .run)
    (lively : c.machine.state = .run →
      (c.machine.supervisor.observeMaster c.board.rx.masterCounter).masterStalled = false)
    (edge : Edge) :
    (c.syncCycle edge).Calm limits kind ∧ (c.syncCycle edge).machine.state = .run ∧
      ∀ joint : Joint, joint.kind = kind → c.machine.state = .run →
        (c.syncCycle edge).board.motorCurrent.toInt = max (-limits.maxMotorCurrent.toInt)
          (min limits.maxMotorCurrent.toInt c.board.rx.motorCurrent.toInt) := by
  obtain ⟨run, undisturbed, count, carries⟩ := h.tick valid healthy command lively edge
  have framed (imu : kind = .imu) : (c.syncCycle edge).board.imu.Ready := by
    rw [imu_syncCycle]
    exact ready_readied (h.sound.kind.trans imu) healthy.sensor edge
  have live (joint : Joint) (driven : joint.kind = kind) :
      (c.syncCycle edge).board.amplifierEnabled =
        (c.syncCycle edge).machine.state.outputsLive := by
    have sound := h.sound
    rw [← driven] at sound
    exact live_syncCycle sound (h.live joint driven) edge
  refine ⟨⟨sound_syncCycle h.sound edge, undisturbed.clean, framed, ?_, count, live, ?_,
    Or.inr run⟩, run, ?_⟩
  · exact congrArg Prod.fst ((SimBoard.line_of_wiring (c.wiring_syncCycle edge)).trans
      undisturbed.line)
  · exact (c.layout_syncCycle edge).trans h.layout
  · intro joint driven running
    have current := congrArg Prod.snd (SimBoard.amplifier_of_wiring (c.wiring_syncCycle edge))
    have current : (c.syncCycle edge).board.motorCurrent =
      (c.readied edge).tick.board.motorCurrent := current
    rw [current]
    exact carries joint driven running

end Controller
/-! ### The start -/

/-- An amplifier that accepts commands is all that setting up a device needs. -/
theorem Device.setUp_of_accepting (d : Device) (data : ProcessData) {b : SimBoard}
    (accepts : b.amplifierReject = false) : ∃ data', (d.setUp data b).1 = .ok data' := by
  have powered : d.powerUp b = (.ok (), (d.powerUp b).2) := by
    cases d with
    | boom | imu => rfl
    | actuator joint m => rw [powerUp_actuator, accepts, if_neg Bool.false_ne_true]
  unfold setUp
  rw [powered]
  exact ⟨_, rfl⟩

namespace Controller

variable {config : Config} {kind : Kind} {b : SimBoard}

/-- A controller of a known kind starts on any board whose amplifier accepts commands. -/
theorem start_of_accepting (named : config.device.id.kind? = some kind)
    (accepts : b.amplifierReject = false) : ∃ c b', start config b = (.ok c, b') := by
  have accepts : (Journal.note (.deviceSelected config.device.id kind) b).amplifierReject = false :=
    accepts
  obtain ⟨data, done⟩ :=
    (Device.ofKind kind config.limits).setUp_of_accepting (.ofLayout kind.layout) accepts
  unfold start
  simp only [named]
  split
  · rename_i failed
    rw [failed] at done
    nomatch done
  · exact ⟨_, _, rfl⟩

theorem clean_ofKind (kind : Kind) (limits : Limits) : (Device.ofKind kind limits).Clean := by
  cases kind <;> first | exact ⟨rfl, rfl⟩ | rfl

/-- An inertial measurement unit asks for its first frame when it starts. -/
theorem imu_start {c : Controller SimBoard} {b' : SimBoard}
    (named : config.device.id.kind? = some .imu) (h : start config b = (.ok c, b')) :
    c.board.imu = b.imu.pulse := by
  obtain ⟨kind, data, ready, named', setUp, rfl⟩ := eq_of_start h
  obtain rfl : Kind.imu = kind := Option.some.inj (named.symm.trans named')
  have powered := (Device.ofKind .imu config.limits).setUp_leaves (f := SimBoard.imu)
    (fun _ _ => rfl) (.ofLayout Kind.imu.layout)
    (Journal.note (.deviceSelected config.device.id .imu) b)
  rw [setUp] at powered
  exact powered

/-- A controller that has just started is calm. -/
theorem calm_of_start {c : Controller SimBoard} {b' : SimBoard} (valid : config.limits.Valid)
    (named : config.device.id.kind? = some kind) (off : b.amplifier = (false, 0))
    (silent : b.selfAsserted = false) (undisturbed : b.imu.pending = .none)
    (h : start config b = (.ok c, b')) : c.Calm config.limits kind := by
  have own := (selfAsserted_start h).trans silent
  obtain ⟨found, begins⟩ := begins_of_start valid off h
  obtain rfl : kind = found := Option.some.inj (named.symm.trans begins.named)
  obtain ⟨found, data, board, named', -, made⟩ := eq_of_start h
  obtain rfl : kind = found := Option.some.inj (named.symm.trans named')
  have framed (imu : kind = .imu) : c.board.imu.Ready := by
    subst imu
    rw [imu_start named h]
    exact b.imu.ready_pulse undisturbed
  have clean : c.device.Clean := by
    rw [made]
    exact clean_ofKind kind config.limits
  have idle : c.machine.state = .idle := congrArg Machine.state begins.machine
  refine ⟨begins.sound, clean, framed, own, ?_, ?_, begins.layout, Or.inl idle⟩
  · rw [begins.machine]
    rfl
  · intro joint _
    rw [begins.off, idle]
    rfl

end Controller

end FieldbusNode
